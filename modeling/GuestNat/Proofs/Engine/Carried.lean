import GuestNat.Proofs.Engine.Events
import Mathlib.Algebra.BigOperators.Group.List.Basic
import Mathlib.Algebra.Group.Prod
import Mathlib.Data.UInt

/-!
# The octets of a link

A link counts the octets that were relayed for it. It counts what is reported of it and nothing
else, whatever happens in between and also when it has left the table, and it begins with none.
So in a run its counts grow by the sum of the reports (`load_run`).
-/
namespace GuestNat

/-- The octets sent and received. -/
def Link.load (l : Link) : UInt64 × UInt64 := (l.sent, l.received)

/-- Whether an event is a report of traffic on a link. -/
def Event.carries (id : LinkId) : Event → Bool
  | .carried j _ _ => j = id
  | _ => false

def Event.load (id : LinkId) : Event → UInt64 × UInt64
  | .carried j sent received => if j = id then (sent, received) else (0, 0)
  | _ => (0, 0)

/-- The octets of the link of an identity, none if there is no such link. -/
def Engine.load (e : Engine) (id : LinkId) : UInt64 × UInt64 :=
  ((e.links.link? id).map Link.load).getD (0, 0)

open scoped UInt64.CommRing

namespace Event

variable {id : LinkId}

lemma load_of_not_carries {event : Event} (h : event.carries id = false) : event.load id = 0 := by
  cases event with
  | carried j sent received => exact if_neg (of_decide_eq_false h)
  | _ => rfl

lemma sum_load_filter (events : List Event) :
    ((events.filter (·.carries id)).map (·.load id)).sum = (events.map (·.load id)).sum := by
  induction events with
  | nil => rfl
  | cons event rest ih =>
    cases h : event.carries id with
    | true => rw [List.filter_cons_of_pos h, List.map_cons, List.map_cons, List.sum_cons, ih,
        List.sum_cons]
    | false => rw [List.filter_cons_of_neg (by simp [h]), ih, List.map_cons, List.sum_cons,
        load_of_not_carries h, zero_add]

end Event

namespace Engine

variable {e : Engine} {id : LinkId}

lemma load_of_link {l : Link} (hl : e.links.link? id = some l) : e.load id = l.load := by
  rw [load, hl]
  rfl

/-- What is no report of a link leaves its counts alone. -/
lemma Fate.load_eq {e' : Engine} {w : Surroundings} {event : Event} {o o' : Option Link}
    {sent : List (FrameCause × Flags)} (hfate : Fate e e' w id event o o' sent)
    (hcarries : event.carries id = false) :
    (o'.map Link.load).getD (0, 0) = (o.map Link.load).getD (0, 0) := by
  cases hfate with
  | carried => exact absurd rfl (of_decide_eq_false hcarries)
  | _ => rfl

lemma load_step (h : e.Coherent) (w : Surroundings) (event : Event)
    (hknown : event.carries id = true → (e.links.link? id).isSome = true) :
    (e.step w event).load id = e.load id + event.load id := by
  cases hcarries : event.carries id with
  | false =>
    obtain ⟨sent, hfate, -⟩ := meets_step h w event id
    rw [Event.load_of_not_carries hcarries, add_zero]
    exact hfate.load_eq hcarries
  | true =>
    obtain ⟨l, hl⟩ := Option.isSome_iff_exists.mp (hknown hcarries)
    cases event with
    | carried j sent received =>
      obtain rfl := of_decide_eq_true hcarries
      have hlink := (link?_modifyLink hl (fun l => (l.carry sent received).touch w.now) j).trans
        (if_pos rfl)
      rw [load_of_link hl, Event.load, if_pos rfl]
      exact load_of_link hlink
    | _ => cases hcarries

lemma load_run (h : e.Coherent) {events : List (Surroundings × Event)}
    (hknown : (e.links.link? id).isSome = true ∨ ∀ x ∈ events, x.2.carries id = false)
    (hdials : (e.run events).dials < UInt64.size) :
    (e.run events).load id = e.load id + (events.map (·.2.load id)).sum := by
  induction events generalizing e with
  | nil => exact (add_zero _).symm
  | cons x rest ih =>
    obtain ⟨w, event⟩ := x
    have hnext := h.step_of_run hdials
    have hstep := load_step h w event fun hcarries =>
      hknown.resolve_right fun hnone => by
        rw [hnone _ (.head _)] at hcarries
        cases hcarries
    have hlater : ((e.step w event).links.link? id).isSome = true ∨
        ∀ x ∈ rest, x.2.carries id = false := by
      refine hknown.imp (fun hsome => ?_) fun hnone x hx => hnone x (.tail _ hx)
      obtain ⟨l, hl⟩ := Option.isSome_iff_exists.mp hsome
      obtain ⟨sent, hfate, -⟩ := meets_step h w event id
      rw [hl] at hfate
      obtain ⟨l', hl', -⟩ := hfate.known
      exact Option.isSome_iff_exists.mpr ⟨l', hl'⟩
    rw [run_cons, ih hnext hlater hdials, hstep, List.map_cons, List.sum_cons, add_assoc]

/-- A link of which nothing was reported has counted nothing. -/
lemma load_eq_zero {c : Config} {events : List (Surroundings × Event)}
    (hnone : ∀ x ∈ events, x.2.carries id = false)
    (hdials : ((ofConfig c).run events).dials < UInt64.size) :
    ((ofConfig c).run events).load id = 0 := by
  have hzero : (events.map (·.2.load id)).sum = 0 :=
    List.sum_eq_zero (List.forall_mem_map.mpr fun x hx => Event.load_of_not_carries (hnone x hx))
  rw [load_run (coherent_ofConfig c) (.inr hnone) hdials, hzero]
  rfl

end Engine

end GuestNat
