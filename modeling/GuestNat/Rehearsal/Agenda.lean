/-!
# Agendas

The order in which one thread takes up its tasks. A task that another task made
ready goes before those that were handed in from outside, but each time the thread
has looked a number of times the latter go first once. Among its equals the task that
was ready first goes first. A task that has used up its allowance steps back until the
thread comes round again. Then those that stepped back are ready behind all that other
tasks made ready, the last one first.
-/
namespace GuestNat.Rehearsal

/-- The tasks that a thread has before it. -/
structure Agenda (α : Type) where
  /-- Tasks handed in from outside, in order. -/
  handed : List α := []
  /-- Tasks made ready by the thread itself, in order. -/
  raised : List α := []
  /-- Tasks that stepped back, the last one first. -/
  resting : List α := []
  /-- How often the thread has looked for a task. -/
  looks : Nat := 0
  /-- Whether the thread is at work, so that it is the one who makes tasks ready. -/
  working : Bool := false
  deriving Repr, Inhabited

namespace Agenda

variable {α : Type}

/-- Each time the thread has looked this often, tasks from outside go first. -/
def handedEvery : Nat := 31

/-- The tasks in the order in which they would be taken if nothing else became ready and
tasks from outside never went first. -/
def order (a : Agenda α) : List α := a.raised ++ a.handed ++ a.resting

def isEmpty (a : Agenda α) : Bool := a.order.isEmpty

def wake [DecidableEq α] (a : Agenda α) (t : α) : Agenda α :=
  if t ∈ a.order then a
  else if a.working then { a with raised := a.raised ++ [t] }
  else { a with handed := a.handed ++ [t] }

def stepBack (a : Agenda α) (t : α) : Agenda α := { a with resting := t :: a.resting }

/-- Makes the tasks that stepped back ready. -/
def comeRound (a : Agenda α) : Agenda α :=
  { a with raised := a.raised ++ a.resting, resting := [] }

/-- Takes the first task that is ready off the agenda, if there is one. -/
def take (a : Agenda α) : Option α × Agenda α :=
  let a := { a with looks := a.looks + 1 }
  match a.raised, a.handed with
  | [], [] => (none, a)
  | t :: rest, [] => (some t, { a with raised := rest })
  | [], t :: rest => (some t, { a with handed := rest })
  | r :: raised, t :: handed =>
    if a.looks % handedEvery = 0 then (some t, { a with handed }) else (some r, { a with raised })

end Agenda

end GuestNat.Rehearsal
