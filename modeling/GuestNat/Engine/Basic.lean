import GuestNat.Counters
import GuestNat.Flow.Table
import GuestNat.Link.Table
import GuestNat.Reassembly
import GuestNat.Routing
import GuestNat.Wire.Icmp

/-!
# The engine

The engine translates between the frames of a guest and sockets of the host. It is
a transition system: every operation takes the engine and what its surroundings
would answer at that moment, and returns the engine. What it asks of the world, and
what it writes, is appended to its outbox, which the host empties.
-/
namespace GuestNat

/-- Why the engine writes a frame. -/
inductive FrameCause where
  /-- It translates a segment. -/
  | translated
  /-- It answers a segment with a reset of its own. -/
  | reset
  /-- It hands on a datagram that arrived for a flow. -/
  | reply
  deriving DecidableEq, Repr, Inhabited

/-- What the engine asks of the world, or gives it. -/
inductive Effect where
  /-- A frame that the virtual interface accepted. -/
  | frame (cause : FrameCause) (bytes : Bytes)
  /-- A message handed to the ICMP forwarder. -/
  | icmp (message : IcmpMessage)
  /-- The host was asked for the ports it uses. -/
  | portQuery
  /-- A connection for a link is to be opened. -/
  | dial (link : LinkId) (destination : Endpoint)
  /-- The socket of a link is closed. -/
  | hangUp (socket : SocketId)
  | routed (answer : RoutingAnswer)
  | flow (effect : FlowEffect)
  deriving DecidableEq, Repr, Inhabited

/-- What the surroundings of the engine answer during one operation. -/
structure Surroundings where
  /-- The time, in milliseconds. -/
  now : Nat := 0
  /-- Whether the virtual interface takes frames. -/
  accepts : Bool := true
  /-- Whether the ICMP forwarder takes messages, if there is one. -/
  forwards : Option Bool := none
  /-- The ports that the host uses for connections from the gateway. -/
  reserved : List UInt16 := []
  routing : RoutingService := fun _ _ => none

structure Engine where
  config : Config
  links : LinkTable
  reassembler : Reassembler
  flows : FlowTable := {}
  counters : Counters := {}
  /-- Whether the periodic sweep runs. -/
  running : Bool := false
  /-- The links whose connections are being opened. -/
  dialing : List LinkId := []
  /-- What the host has not yet taken notice of, oldest first. -/
  outbox : List Effect := []

namespace Engine

def ofConfig (c : Config) : Engine where
  config := c
  links := { gateway := c.gateway, ports := .ofRange c.firstPort c.lastPort }
  reassembler := { timeout := c.fragmentTimeout }

/-- Builds an engine from a configuration without flaws, if there is something to run its
tasks on. -/
def build (c : Config) (runtime : Bool) : Except Fault Engine :=
  match c.flaw?, runtime with
  | some flaw, _ => .error (.configuration flaw.message)
  | none, false => .error (.configuration ConfigFlaw.noRuntime.message)
  | none, true => .ok (ofConfig c)

/-- Appends an effect to the outbox. -/
def emit (e : Engine) (effect : Effect) : Engine := { e with outbox := e.outbox ++ [effect] }

def count (e : Engine) (f : Counters → Counters) : Engine := { e with counters := f e.counters }

/-- Empties the outbox. -/
def flush (e : Engine) : Engine × List Effect := ({ e with outbox := [] }, e.outbox)

/-- Writes a frame to the virtual interface, which may refuse it. -/
def write (e : Engine) (w : Surroundings) (cause : FrameCause) (f : Frame) : Engine :=
  if w.accepts then
    (e.emit (.frame cause f.toBytes)).count (·.record .outbound f.protocol f.toBytes.length)
  else e.count .frameDropped

/-- Answers a segment with a reset, unless it is a reset itself. -/
def sendReset (e : Engine) (w : Surroundings) (s : Segment) : Engine :=
  if s.flags.rst then e
  else
    let e := e.write w .reset s.reset.toFrame
    if w.accepts then e.count .resetSent else e

def modifyLink (e : Engine) (id : LinkId) (f : Link → Link) : Engine :=
  { e with links := e.links.modify id f }

/-- Closes the sockets of links that were closed. -/
def hangUp (e : Engine) (ls : List Link) : Engine :=
  { e with outbox := e.outbox ++ (ls.filterMap (·.socket)).map .hangUp }

/-- Closes a link if it is live. Tells whether it was. -/
def closeLink (e : Engine) (id : LinkId) : Engine × Bool :=
  match e.links.closeLink? id with
  | some (links, l) =>
    (({ e with links }.hangUp [l]).count (·.linksWereClosed 1), true)
  | none => (e, false)

/-- Takes over what the flow table asks of the world. Replies become frames. -/
def absorb (e : Engine) (w : Surroundings) (effects : List FlowEffect) : Engine :=
  effects.foldl
    (fun e effect =>
      match effect with
      | .replied _ d => e.write w .reply d.toFrame
      | other => e.emit (.flow other))
    e

/-- What replies and requests of flows preserve holds after all of them. -/
theorem absorb_induction {P : Engine → Prop} {w : Surroundings} (e : Engine)
    (effects : List FlowEffect) (start : P e)
    (write : ∀ (d : Engine) (m : Datagram), P d → P (d.write w .reply m.toFrame))
    (emit : ∀ (d : Engine) (x : FlowEffect), P d → P (d.emit (.flow x))) :
    P (e.absorb w effects) := by
  unfold absorb
  induction effects generalizing e with
  | nil => exact start
  | cons x rest ih =>
    refine ih _ ?_
    cases x with
    | replied _ m => exact write e m start
    | _ => exact emit e _ start

end Engine

end GuestNat
