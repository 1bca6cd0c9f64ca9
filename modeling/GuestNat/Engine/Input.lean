import GuestNat.Engine.Tcp

/-!
# Frames from the virtual interface

A frame is counted and taken apart by its protocol. TCP segments are translated;
UDP and ICMP are put together from fragments first, and then go to a flow or to the
forwarder. Whatever cannot be used is dropped and counted.
-/
namespace GuestNat.Engine

def processUdp (e : Engine) (w : Surroundings) (f : Frame) : Engine :=
  match Datagram.ofFrame? e.config.verify f with
  | none => e.count .frameDropped
  | some d =>
    let (flows, queued, effects) := e.flows.send d w.now
    let e := { e with flows }.absorb w effects
    if queued then e else e.count .frameDropped

def processIcmp (e : Engine) (w : Surroundings) (f : Frame) : Engine :=
  match IcmpMessage.ofFrame? e.config.verify f with
  | none => e.count .frameDropped
  | some m =>
    match w.forwards with
    | none => e.count .frameDropped
    | some taken =>
      let e := e.emit (.icmp m)
      if taken then e else e.count .frameDropped

/-- A frame whose payload may be in fragments. -/
def processDatagram (e : Engine) (w : Surroundings) (f : Frame) : Engine :=
  let deliver (e : Engine) (f : Frame) : Engine :=
    if f.protocol = .udp then e.processUdp w f else e.processIcmp w f
  let (reassembler, offer) := e.reassembler.offer f w.now
  let e := { e with reassembler }
  match offer with
  | .whole => deliver e f
  | .buffered => e.count .fragmentBuffered
  | .complete whole => deliver (e.count .datagramReassembled) whole
  | .rejected => e.count .frameDropped

def processFrame (e : Engine) (w : Surroundings) (f : Frame) : Engine :=
  match f.protocol with
  | .tcp =>
    match Segment.ofFrame? e.config.verify f with
    | some s => e.processTcp w s
    | none => e.count .frameDropped
  | .udp | .icmp => e.processDatagram w f
  | .other _ => e.count .frameDropped

/-- Octets from the virtual interface. -/
def input (e : Engine) (w : Surroundings) (bytes : Bytes) : Engine :=
  match Frame.ofBytes? e.config.verify bytes with
  | none => e.count .frameDropped
  | some f => (e.count (·.record .inbound f.protocol bytes.length)).processFrame w f

end GuestNat.Engine
