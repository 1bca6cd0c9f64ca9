import GuestNat.Wire.Frame

/-!
# Counters

What has passed through the engine, in 64-bit counters that wrap. Traffic is
counted by direction and protocol.
-/
namespace GuestNat

/-- The direction of a frame relative to the engine. -/
inductive Direction where
  /-- Read from the virtual interface. -/
  | inbound
  /-- Written to the virtual interface. -/
  | outbound
  deriving DecidableEq, Repr

/-- A number of packets and of their octets. -/
structure Traffic where
  packets : UInt64 := 0
  octets : UInt64 := 0
  deriving DecidableEq, Repr, Inhabited

def Traffic.count (t : Traffic) (length : Nat) : Traffic :=
  ⟨t.packets + 1, t.octets + UInt64.ofNat length⟩

def Traffic.add (s t : Traffic) : Traffic := ⟨s.packets + t.packets, s.octets + t.octets⟩

/-- Traffic by protocol. -/
structure ProtocolTraffic where
  tcp : Traffic := {}
  udp : Traffic := {}
  icmp : Traffic := {}
  other : Traffic := {}
  deriving DecidableEq, Repr, Inhabited

def ProtocolTraffic.count (t : ProtocolTraffic) (protocol : Protocol) (length : Nat) :
    ProtocolTraffic :=
  match protocol with
  | .tcp => { t with tcp := t.tcp.count length }
  | .udp => { t with udp := t.udp.count length }
  | .icmp => { t with icmp := t.icmp.count length }
  | .other _ => { t with other := t.other.count length }

/-- The traffic of all protocols together. -/
def ProtocolTraffic.total (t : ProtocolTraffic) : Traffic :=
  ((t.tcp.add t.udp).add t.icmp).add t.other

structure Counters where
  inbound : ProtocolTraffic := {}
  outbound : ProtocolTraffic := {}
  linksCreated : UInt64 := 0
  linksClosed : UInt64 := 0
  resetsSent : UInt64 := 0
  fragmentsBuffered : UInt64 := 0
  datagramsReassembled : UInt64 := 0
  groupsExpired : UInt64 := 0
  framesDropped : UInt64 := 0
  deriving DecidableEq, Repr, Inhabited

namespace Counters

/-- Counts a frame. -/
def record (c : Counters) (direction : Direction) (protocol : Protocol) (length : Nat) :
    Counters :=
  match direction with
  | .inbound => { c with inbound := c.inbound.count protocol length }
  | .outbound => { c with outbound := c.outbound.count protocol length }

def linkCreated (c : Counters) : Counters := { c with linksCreated := c.linksCreated + 1 }

def linksWereClosed (c : Counters) (n : Nat) : Counters :=
  { c with linksClosed := c.linksClosed + UInt64.ofNat n }

def resetSent (c : Counters) : Counters := { c with resetsSent := c.resetsSent + 1 }

def fragmentBuffered (c : Counters) : Counters :=
  { c with fragmentsBuffered := c.fragmentsBuffered + 1 }

def datagramReassembled (c : Counters) : Counters :=
  { c with datagramsReassembled := c.datagramsReassembled + 1 }

def groupsWereExpired (c : Counters) (n : Nat) : Counters :=
  { c with groupsExpired := c.groupsExpired + UInt64.ofNat n }

def frameDropped (c : Counters) : Counters := { c with framesDropped := c.framesDropped + 1 }

/-- The links that were created and not yet closed. -/
def activeLinks (c : Counters) : UInt64 :=
  if c.linksClosed ≤ c.linksCreated then c.linksCreated - c.linksClosed else 0

end Counters

end GuestNat
