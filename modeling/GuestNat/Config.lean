import GuestNat.Fault

/-!
# Configuration

The addresses, limits and routes an engine runs with, and the values it cannot run
with. All times are in milliseconds.
-/
namespace GuestNat

/-- A route that is installed while the engine runs. -/
structure Route where
  destination : Ipv4
  /-- The number of leading bits that an address must share with the destination. -/
  length : UInt8
  deriving DecidableEq, Repr, Inhabited

structure Config where
  /-- The address that stands in for guests on the host side. -/
  gateway : Ipv4 := ⟨10, 0, 0, 2⟩
  /-- The host-side endpoint that accepts translated connections. -/
  listener : Endpoint := ⟨⟨10, 0, 0, 1⟩, 7070⟩
  /-- Whether links close at once instead of after a grace period. -/
  subnet : Bool := false
  /-- How long an established link may be idle. -/
  maxInactivity : Nat := 300000
  /-- How long a link may be idle in its handshake. -/
  maxSyn : Nat := 20000
  /-- The grace period of a closing link. -/
  maxFinal : Nat := 5000
  /-- How long a UDP flow may be idle. -/
  udpInactivity : Nat := 60000
  /-- How long an incomplete datagram may wait for fragments. -/
  fragmentTimeout : Nat := 1000
  /-- The time from one sweep to the next. -/
  sweepInterval : Nat := 1000
  firstPort : UInt16 := 49152
  lastPort : UInt16 := 65535
  /-- Whether frames with a wrong checksum are refused. -/
  verify : Bool := true
  routes : List Route := []
  dns : List Address := []
  deriving DecidableEq, Repr, Inhabited

/-- What keeps an engine from being built. -/
inductive ConfigFlaw where
  | emptyPortRange
  | portZero
  | zeroSweepInterval
  | listenerAtGateway
  /-- There is nothing to run the engine's tasks on. -/
  | noRuntime
  deriving DecidableEq, Repr

def ConfigFlaw.message : ConfigFlaw → String
  | emptyPortRange => "empty port range"
  | portZero => "port range must not include 0"
  | zeroSweepInterval => "sweep interval must be non-zero"
  | listenerAtGateway => "listener address must differ from the gateway address"
  | noRuntime => "engine must be built inside a tokio runtime"

/-- The first flaw of a configuration. -/
def Config.flaw? (c : Config) : Option ConfigFlaw :=
  if c.lastPort < c.firstPort then some .emptyPortRange
  else if c.firstPort = 0 then some .portZero
  else if c.sweepInterval = 0 then some .zeroSweepInterval
  else if c.listener.ip = c.gateway then some .listenerAtGateway
  else none

def Config.check (c : Config) : Except Fault Unit :=
  match c.flaw? with
  | some flaw => .error (.configuration flaw.message)
  | none => .ok ()

end GuestNat
