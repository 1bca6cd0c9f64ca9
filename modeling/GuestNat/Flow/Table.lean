import GuestNat.Link.Basic
import GuestNat.Table
import GuestNat.Wire.Udp

/-!
# UDP flows

Each endpoint of the guest that sends datagrams has a flow with a socket of its
own. A datagram waits in the flow's queue until the socket is bound and the sender
hands it on; what arrives on the socket goes back to the endpoint. A flow leaves
the table when it has been idle too long. Like links, flows are kept by identity
after that, because their sender still has to finish.

The table is a transition system: every operation returns the new table and what
it asks of the world, in order.
-/
namespace GuestNat

abbrev FlowId := Nat

/-- How far the sender of a flow is. -/
inductive FlowSender where
  /-- It waits for a socket. -/
  | binding
  /-- It hands queued datagrams to a socket. -/
  | sending (socket : SocketId)
  | finished
  deriving DecidableEq, Repr, Inhabited

structure Flow where
  id : FlowId
  source : Endpoint
  /-- The payloads and targets that wait to be sent. -/
  queue : List (Bytes × Endpoint) := []
  /-- Whether the queue takes more. -/
  accepting : Bool := true
  socket : Option SocketId := none
  lastActive : Nat
  closed : Bool := false
  sender : FlowSender := .binding
  /-- The socket that replies are read from, while they are. -/
  listening : Option SocketId := none
  deriving DecidableEq, Repr, Inhabited

/-- What a flow asks of the world, or tells it. -/
inductive FlowEffect where
  /-- A flow was opened: its sender needs a socket. -/
  | opened (flow : FlowId)
  | queued (flow : FlowId) (payload : Bytes) (target : Endpoint)
  /-- A queue takes no more. -/
  | retired (flow : FlowId)
  /-- Replies are read from a socket from now on. -/
  | listening (flow : FlowId) (socket : SocketId)
  | sent (flow : FlowId) (socket : SocketId) (payload : Bytes) (target : Endpoint)
  /-- A datagram arrived for the guest. -/
  | replied (flow : FlowId) (datagram : Datagram)
  | hungUp (socket : SocketId)
  deriving DecidableEq, Repr, Inhabited

/-- What happens to a flow from outside. -/
inductive FlowEvent where
  /-- The socket that its sender asked for is bound. -/
  | bound (flow : FlowId) (socket : SocketId)
  | bindFailed (flow : FlowId)
  | sendNext (flow : FlowId)
  | received (flow : FlowId) (sender : SocketAddress) (payload : Bytes)
  | receiveFailed (flow : FlowId)
  deriving DecidableEq, Repr, Inhabited

namespace Flow

/-- How many datagrams may wait in a queue. -/
def queueDepth : Nat := 256

/-- The flow with activity noted at a time. -/
def touch (f : Flow) (now : Nat) : Flow := { f with lastActive := max f.lastActive now }

def idle (f : Flow) (now : Nat) : Nat := now - f.lastActive

/-- Whether the queue takes another datagram. -/
def hasRoom (f : Flow) : Bool := f.accepting && f.queue.length < queueDepth

/-- The closed flow. What is in its queue stays for its sender. -/
def close (f : Flow) : Flow := { f with closed := true, socket := none, accepting := false }

/-- What closing a flow asks of the world. -/
def closeEffects (f : Flow) : List FlowEffect :=
  (if f.accepting then [.retired f.id] else []) ++ f.socket.toList.map .hungUp

/-- Gives the sender its socket, or closes that if the flow is closed. -/
def bind (f : Flow) (socket : SocketId) : Flow × List FlowEffect :=
  if f.closed then ({ f with sender := .finished, queue := [] }, [.hungUp socket])
  else
    ({ f with socket := some socket, sender := .sending socket, listening := some socket },
      [.listening f.id socket])

/-- Whether the sender has something to do: a datagram to hand on, or its end behind a queue
that takes no more. -/
def hasToSend (f : Flow) : Bool :=
  match f.sender with
  | .sending _ => !f.queue.isEmpty || !f.accepting
  | _ => false

/-- The sender hands on the first queued datagram. Behind the last one of a queue that
takes no more, it closes the socket and ends. -/
def sendNext (f : Flow) : Flow × List FlowEffect :=
  match f.sender, f.queue with
  | .sending socket, (payload, target) :: rest =>
    ({ f with queue := rest }, [.sent f.id socket payload target])
  | .sending socket, [] =>
    if f.accepting then (f, []) else ({ f with sender := .finished }, [.hungUp socket])
  | _, _ => (f, [])

/-- A datagram from an IPv4 sender goes to the guest; another is ignored. -/
def receive (f : Flow) (now : Nat) (sender : SocketAddress) (payload : Bytes) :
    Flow × List FlowEffect :=
  match f.listening, sender with
  | some _, .v4 sender => (f.touch now, [.replied f.id ⟨sender, f.source, payload⟩])
  | _, _ => (f, [])

end Flow

/-- The flows of an engine, with an index over those that are live. -/
structure FlowTable where
  /-- Every flow that was opened. -/
  flows : Table FlowId Flow := .empty
  bySource : Table Endpoint FlowId := .empty
  nextId : FlowId := 0

namespace FlowTable

def flow? (t : FlowTable) (id : FlowId) : Option Flow := t.flows.get? id

/-- The live flow of an endpoint. -/
def find? (t : FlowTable) (source : Endpoint) : Option Flow := t.bySource.get? source >>= t.flow?

/-- The number of live flows. -/
def size (t : FlowTable) : Nat := t.bySource.size

def contains (t : FlowTable) (source : Endpoint) : Bool := t.bySource.contains source

def put (t : FlowTable) (f : Flow) : FlowTable := { t with flows := t.flows.insert f.id f }

/-- The table with a new flow of an endpoint, in the place of a closed one. -/
def openFlow (t : FlowTable) (source : Endpoint) (now : Nat) : FlowTable × Flow :=
  let f : Flow := { id := t.nextId, source, lastActive := now }
  ({ t.put f with bySource := t.bySource.insert source f.id, nextId := t.nextId + 1 }, f)

/-- The open flow of an endpoint, which is opened if there is none. -/
def flowFor (t : FlowTable) (source : Endpoint) (now : Nat) :
    FlowTable × Flow × List FlowEffect :=
  match (t.find? source).filter (!·.closed) with
  | some f => (t, f, [])
  | none =>
    let (t, f) := t.openFlow source now
    (t, f, [.opened f.id])

/-- Sends a datagram of the guest: puts it into the queue of its flow. Tells whether the
queue took it. -/
def send (t : FlowTable) (d : Datagram) (now : Nat) : FlowTable × Bool × List FlowEffect :=
  let (t, f, effects) := t.flowFor d.source now
  let f := f.touch now
  if f.hasRoom then
    (t.put { f with queue := f.queue ++ [(d.payload, d.destination)] }, true,
      effects ++ [.queued f.id d.payload d.destination])
  else (t.put f, false, effects)

/-- Closes flows that were taken out of the index. -/
def closeAll (t : FlowTable) (fs : List Flow) : FlowTable × List FlowEffect :=
  (fs.foldl (fun t f => t.put f.close) t, fs.flatMap Flow.closeEffects)

/-- Closes and removes every flow that has been idle for longer than a time. Tells how
many there were. -/
def evict (t : FlowTable) (now timeout : Nat) : FlowTable × Nat × List FlowEffect :=
  let isIdle := fun id => (t.flow? id).any fun f => timeout < f.idle now
  let kept := t.bySource.filter fun _ id => !isIdle id
  let gone := (t.bySource.values.filter isIdle).filterMap t.flow?
  let (t', effects) := { t with bySource := kept }.closeAll gone
  (t', gone.length, effects)

/-- Closes and removes every flow. Tells how many there were. -/
def clear (t : FlowTable) : FlowTable × Nat × List FlowEffect :=
  let gone := t.bySource.values.filterMap t.flow?
  let (t', effects) := { t with bySource := .empty }.closeAll gone
  (t', gone.length, effects)

def update (t : FlowTable) (id : FlowId) (f : Flow → Flow × List FlowEffect) :
    FlowTable × List FlowEffect :=
  match t.flow? id with
  | some flow =>
    let (flow, effects) := f flow
    (t.put flow, effects)
  | none => (t, [])

/-- The table after an event at a time. An event that does not fit the flow is ignored. -/
def step (t : FlowTable) (now : Nat) : FlowEvent → FlowTable × List FlowEffect
  | .bound id socket => t.update id fun f =>
    if f.sender = .binding then f.bind socket else (f, [])
  | .bindFailed id => t.update id fun f =>
    if f.sender = .binding then
      ({ f.close with sender := .finished, queue := [] }, f.closeEffects)
    else (f, [])
  | .sendNext id => t.update id Flow.sendNext
  | .received id sender payload => t.update id fun f => f.receive now sender payload
  | .receiveFailed id => t.update id fun f => ({ f with listening := none }, [])

end FlowTable

end GuestNat
