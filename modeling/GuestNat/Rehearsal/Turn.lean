import GuestNat.Rehearsal.Host

/-!
# The turns of tasks

What each task does when the thread takes it up: it goes on until it waits, or until
it has used up its allowance. A task uses its allowance when it takes something that
waited for it, such as a datagram in a queue or the outcome of a call.
-/
namespace GuestNat.Rehearsal.Host

variable {σ : Type} [Subject σ]

/-- How often a task may take something that waited for it, in one turn. -/
def turnAllowance : Nat := 128

/-- The end of a call to the provider. -/
structure CallEnd where
  name : CallName
  ok : Bool
  /-- What the task has left of its allowance. -/
  allowance : Nat

/-- Asks the provider on behalf of a task: for the first time, or for the outcome of a call
that waits. Returns how the call ended, if it has. -/
def ask (h : Host σ) (task : Task) (name : CallName) (mode : Mode) (begin : Host σ → Host σ) :
    Host σ × Option CallEnd :=
  match h.provider.calls.find? (·.task = task) with
  | some call =>
    match call.outcome with
    | none => (h, none)
    | some ok =>
      (h.provide fun p => { p with calls := p.calls.filter (·.task ≠ task) },
        some ⟨call.name, ok, turnAllowance - 1⟩)
  | none =>
    let h := begin h
    match mode with
    | .succeed => (h, some ⟨name, true, turnAllowance⟩)
    | .fail => (h, some ⟨name, false, turnAllowance⟩)
    | .wait => (h.provide fun p => { p with calls := p.calls ++ [{ name, task }] }, none)

/-- Opens the connection of a link. -/
def runDial (h : Host σ) (link : LinkId) (destination : Endpoint) : Host σ :=
  let name := CallName.connect (h.provider.connects + 1)
  let (h, callEnd) := h.ask (.dial link destination) name (h.provider.modeFor destination) fun h =>
    (h.provide fun p => { p with connects := p.connects + 1 }).note (.connect name destination)
  match callEnd with
  | some ⟨.connect n, true, _⟩ => h.react (.connected link n)
  | some _ => h.react (.dialFailed link)
  | none => h

/-- Sends what is in the queue of a flow, and ends behind a queue that takes no more. Each
datagram uses one of the allowance, and without any the sender steps back. -/
def drain (id : FlowId) : Nat → Host σ → Host σ
  | 0, h => { h with agenda := h.agenda.stepBack (.sender id) }
  | n + 1, h =>
    if (h.flow? id).any Flow.hasToSend then drain id n (h.react (.flow (.sendNext id))) else h

/-- Binds a socket for a flow if it has none, and sends what is in its queue. -/
def runSender (h : Host σ) (id : FlowId) : Host σ :=
  match (h.flow? id).map Flow.sender with
  | some .binding =>
    let name := CallName.bind (h.provider.binds + 1)
    let (h, callEnd) := h.ask (.sender id) name h.provider.bindMode fun h =>
      (h.provide fun p => { p with binds := p.binds + 1 }).note (.bind name)
    match callEnd with
    | some ⟨.bind n, true, allowance⟩ =>
      drain id allowance ((h.provide fun p => { p with inboxes := p.inboxes.insert n [] }).react
        (.flow (.bound id n)))
    | some _ => h.react (.flow (.bindFailed id))
    | none => h
  | some (.sending _) => drain id turnAllowance h
  | _ => h

/-- The longest payload that is read from a socket. -/
def receiveLimit : Nat := 65535

/-- Ends the receiver of a flow. A sender that is through waits for that. -/
def endReceiver (h : Host σ) (id : FlowId) : Host σ :=
  let h := h.react (.flow (.receiveFailed id))
  if (h.flow? id).map Flow.sender = some .finished then h.wake (.sender id) else h

/-- Reads what has arrived on a socket, until nothing is left or it fails. A closed socket
fails. -/
def readAll (h : Host σ) (id : FlowId) (socket : SocketId) : List Arrival → Host σ
  | [] => h
  | a :: rest =>
    let h := h.provide fun p => { p with inboxes := p.inboxes.insert socket rest }
    match a with
    | .datagram sender payload =>
      readAll (h.react (.flow (.received id sender (payload.take receiveLimit)))) id socket rest
    | .failure => h.endReceiver id

/-- Reads the replies of a flow. -/
def runReceiver (h : Host σ) (id : FlowId) : Host σ :=
  match h.flow? id >>= Flow.listening with
  | none => h
  | some socket =>
    if .bind socket ∈ h.provider.closed then h.endReceiver id
    else h.readAll id socket ((h.provider.inboxes.get? socket).getD [])

/-- How late a sweep may be before the next one is counted from now. -/
def lateness : Nat := 5

/-- What a deadline is below, in milliseconds. -/
def deadlineLimit : Nat := 9223372036854775808

/-- Thirty years. -/
def farAhead : Nat := 946080000000

/-- The deadline one period after a time. One that is out of reach is put far ahead instead. -/
def deadlineAfter (h : Host σ) (time : Nat) : Nat :=
  if time + h.period < deadlineLimit then time + h.period else h.world.now + farAhead

/-- The time of the next sweep after one that was due at a time. -/
def nextDue (h : Host σ) (due : Nat) : Nat :=
  h.deadlineAfter (if h.world.now ≤ due + lateness then due else h.world.now)

/-- Sweeps as often as it is due, at most a number of times. -/
def sweepDue : Nat → Host σ → Host σ
  | 0, h => h
  | n + 1, h =>
    match h.due with
    | none => h
    | some due =>
      if h.world.now < due then h
      else
        let h := { h with due := some (h.nextDue due) }
        sweepDue n (h.change fun s => (Subject.sweep s h.world h.world.now).1)

/-- Begins the periodic sweep, or sweeps as often as it is due. Each sweep moves the next
one at least a millisecond on, and past the clock unless it is at most `lateness` behind
it. A ticker that was stopped only ends. -/
def runTicker (h : Host σ) (run : Nat) : Host σ :=
  if run ≠ h.run then h
  else
    match h.due with
    | none => { h with due := some (h.deadlineAfter h.world.now) }
    | some _ => sweepDue (lateness + 2) h

/-- Runs a task until it waits or steps back. -/
def runTask (h : Host σ) : Task → Host σ
  | .dial link destination => h.runDial link destination
  | .sender id => h.runSender id
  | .receiver id => h.runReceiver id
  | .ticker run => h.runTicker run

end GuestNat.Rehearsal.Host
