import GuestNat.Engine.Run
import GuestNat.Net.AddressText

/-!
# A scripted socket provider

A provider whose answers are set in advance: a call to it succeeds, fails or waits
until it is released. Calls are numbered, and a socket has the name of the call that
opened it. What the provider and the engine do is noted in a journal.
-/
namespace GuestNat.Rehearsal

/-- The name of a call to the provider, and of the socket that it opens. -/
inductive CallName where
  | connect (number : Nat)
  | bind (number : Nat)
  deriving DecidableEq, Repr, Inhabited

/-- A letter and a number. -/
def CallName.text : CallName → String
  | connect n => s!"c{n}"
  | bind n => s!"u{n}"

/-- A name that no call has, because calls are numbered from one. -/
def CallName.nobody : CallName := .connect 0

def CallName.ofText (text : String) : CallName :=
  let name := match text.toList with
    | 'c' :: digits => connect (digitsValue 10 digits)
    | 'u' :: digits => bind (digitsValue 10 digits)
    | _ => nobody
  if name.text = text then name else nobody

/-- How the provider answers a call. -/
inductive Mode where
  | succeed
  | fail
  | wait
  deriving DecidableEq, Repr, Inhabited

inductive Task where
  | dial (link : LinkId) (destination : Endpoint)
  /-- Binds a socket for a flow and sends from its queue. -/
  | sender (flow : FlowId)
  | receiver (flow : FlowId)
  /-- Sweeps periodically, from one start of the engine until it is stopped. -/
  | ticker (run : Nat)
  deriving DecidableEq, Repr, Inhabited

/-- A call that waits, or has its outcome but its task has not seen it. -/
structure OpenCall where
  name : CallName
  task : Task
  outcome : Option Bool := none
  deriving Repr, Inhabited

/-- What arrives on a datagram socket. -/
inductive Arrival where
  | datagram (sender : SocketAddress) (payload : Bytes)
  | failure
  deriving Repr, Inhabited

/-- The provider, with its sockets. -/
structure Provider where
  connectMode : Mode := .succeed
  connectModes : Table Endpoint Mode := .empty
  bindMode : Mode := .succeed
  failSend : Bool := false
  connects : Nat := 0
  binds : Nat := 0
  calls : List OpenCall := []
  /-- What waits on each datagram socket that was bound. -/
  inboxes : Table SocketId (List Arrival) := .empty
  closed : List CallName := []

/-- Something noted in order. -/
inductive Note where
  | connect (name : CallName) (destination : Endpoint)
  | bind (name : CallName)
  | send (name : CallName) (target : Endpoint) (payload : Bytes)
  | sendFailed (name : CallName) (target : Endpoint)
  | reply (datagram : Datagram)
  | icmp (message : IcmpMessage)
  deriving Repr, Inhabited

/-- What was done since the last look. -/
structure Journal where
  frames : List Bytes := []
  notes : List Note := []
  closed : List CallName := []
  routing : List RoutingAnswer := []
  portQueries : Nat := 0
  deriving Repr, Inhabited

namespace Provider

/-- How a connection to a destination is answered. -/
def modeFor (p : Provider) (destination : Endpoint) : Mode :=
  (p.connectModes.get? destination).getD p.connectMode

/-- Lets a waiting call of a name finish. Returns the task that waits for it, if there
is one. -/
def release (p : Provider) (name : CallName) (ok : Bool) : Provider × Option Task :=
  match p.calls.find? fun c => c.name = name ∧ c.outcome = none with
  | none => (p, none)
  | some call =>
    ({ p with
        calls := p.calls.map fun c => if c.name = name then { c with outcome := some ok } else c },
      some call.task)

/-- Puts something that arrives on a socket, if it was bound. -/
def arrive (p : Provider) (socket : SocketId) (a : Arrival) : Option Provider :=
  (p.inboxes.get? socket).map fun _ =>
    { p with inboxes := p.inboxes.modify socket fun inbox => inbox ++ [a] }

end Provider

end GuestNat.Rehearsal
