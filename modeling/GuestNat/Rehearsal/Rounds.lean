import GuestNat.Rehearsal.Turn

/-!
# The rounds of the thread

The thread works in rounds of a bounded number of turns. Between two rounds it looks
at the clock, so that a sweep that is due becomes ready, and lets the tasks come back
that have stepped back. It rests when nothing is ready then.
-/
namespace GuestNat.Rehearsal.Host

variable {σ : Type} [Subject σ]

def roundLength : Nat := 61

/-- Takes up tasks, at most a number of them. -/
def runTurns : Nat → Host σ → Host σ
  | 0, h => h
  | n + 1, h =>
    match h.agenda.take with
    | (none, agenda) => { h with agenda }
    | (some t, agenda) => runTurns n (runTask { h with agenda } t)

/-- Makes the ticker ready, if a sweep is due. -/
def strikeHour (h : Host σ) : Host σ :=
  if h.due.any (· ≤ h.world.now) then h.wake (.ticker h.run) else h

/-- A round, and what becomes ready after it. -/
def runRound (h : Host σ) : Host σ :=
  let h := (runTurns roundLength h).strikeHour
  { h with agenda := h.agenda.comeRound }

/-- Works until nothing is ready, at most a number of rounds. -/
def runRounds : Nat → Host σ → Host σ
  | 0, h => h
  | n + 1, h =>
    let h := h.runRound
    if h.agenda.isEmpty then h else runRounds n h

/-- How many turns there can be before nothing is ready. A sender has one for each datagram in
its queue at most, and one to bind, to step back behind the last datagram, to end, and to
see its receiver end; the receiver has one when it begins and one when it ends. The ticker
has one when it begins and one when it sweeps. -/
def turnBound (h : Host σ) : Nat :=
  (Subject.flows h.subject).flows.values.foldl (fun n f => n + f.queue.length + 6)
    (h.agenda.order.length + 3)

/-- Runs everything that can run. -/
def settle (h : Host σ) : Host σ :=
  let h := runRounds h.turnBound { h with agenda := { h.agenda with working := true } }
  { h with agenda := { h.agenda with working := false } }

end GuestNat.Rehearsal.Host
