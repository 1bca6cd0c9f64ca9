import GuestNat.Engine.Input
import GuestNat.Engine.Lifecycle
import GuestNat.Engine.Sweep

/-!
# Runs of the engine

An event is anything that happens to the engine, and a run is a list of events, each
with what the surroundings answer then. Events may come in any order: a completed
connection, a bound socket or a reply may find its link or flow gone.
-/
namespace GuestNat

/-- Something that happens to an engine. -/
inductive Event where
  /-- Octets arrive from the virtual interface. -/
  | input (bytes : Bytes)
  /-- The connection of a link is open. -/
  | connected (link : LinkId) (socket : SocketId)
  | dialFailed (link : LinkId)
  | flow (event : FlowEvent)
  | carried (link : LinkId) (sent received : UInt64)
  | sweep
  | start
  | stop
  deriving DecidableEq, Repr

namespace Engine

def flowEvent (e : Engine) (w : Surroundings) (event : FlowEvent) : Engine :=
  let (flows, effects) := e.flows.step w.now event
  { e with flows }.absorb w effects

/-- Payload of a link was relayed. -/
def carry (e : Engine) (w : Surroundings) (id : LinkId) (sent received : UInt64) : Engine :=
  e.modifyLink id fun l => (l.carry sent received).touch w.now

def step (e : Engine) (w : Surroundings) : Event → Engine
  | .input bytes => e.input w bytes
  | .connected id socket => e.connected w id socket
  | .dialFailed id => e.dialFailed w id
  | .flow event => e.flowEvent w event
  | .carried id sent received => e.carry w id sent received
  | .sweep => (e.sweep w w.now).1
  | .start => (e.start w).1
  | .stop => (e.stop w).1

def run (e : Engine) (events : List (Surroundings × Event)) : Engine :=
  events.foldl (fun e (w, event) => e.step w event) e

@[simp] theorem run_nil (e : Engine) : e.run [] = e := rfl

@[simp] theorem run_cons (e : Engine) (w : Surroundings) (event : Event)
    (rest : List (Surroundings × Event)) :
    e.run ((w, event) :: rest) = (e.step w event).run rest := rfl

theorem run_append (e : Engine) (xs ys : List (Surroundings × Event)) :
    e.run (xs ++ ys) = (e.run xs).run ys := by simp [run]

end Engine

end GuestNat
