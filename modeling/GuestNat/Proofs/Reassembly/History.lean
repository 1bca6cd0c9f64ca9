import GuestNat.Proofs.Reassembly.Fragments

/-!
# Histories of a reassembler

A history is a list of offers, sweeps and clears with their times, in any order. What one
offer can come to is said once (`Answers`), with everything that it does to the groups; an
offer leaves the groups of other keys alone.
-/
namespace GuestNat

/-- What happens to a reassembler. -/
inductive FragmentEvent where
  | offer (f : Frame)
  | sweep
  | clear
  deriving DecidableEq, Repr

/-- What happened to a reassembler and when, oldest first. -/
abbrev FragmentHistory := List (Nat × FragmentEvent)

namespace Reassembler

/-- The group of a key, unless it is stale at a time. -/
def live? (r : Reassembler) (key : FragmentKey) (now : Nat) : Option FragmentGroup :=
  (r.dropStale key now).groups.get? key

/-- The group that a fragment joins at a time: the live one of its key, or a new one. -/
def waiting (r : Reassembler) (key : FragmentKey) (now : Nat) : FragmentGroup :=
  (r.live? key now).getD ⟨[], now + r.timeout⟩

/-- What the offer of a frame at a time can come to. -/
inductive Answers (r : Reassembler) (f : Frame) (now : Nat) : Reassembler × Offer → Prop
  | whole (hf : f.isFragment = false) : Answers r f now (r, .whole)
  | tooLong (hf : f.isFragment = true)
      (hlong : Frame.maxPayload < f.offset.toNat + f.payload.length) :
      Answers r f now (r, .rejected)
  | noRoom (hf : f.isFragment = true) (hnone : r.live? (.of f) now = none)
      (hfull : r.capacity ≤ (r.dropStale (.of f) now).groups.size) :
      Answers r f now (r.dropStale (.of f) now, .rejected)
  | duplicate (hf : f.isFragment = true)
      (hinsert : insertFragment f (r.waiting (.of f) now).fragments = none) :
      Answers r f now (r.dropStale (.of f) now, .rejected)
  | buffered {fs : List Frame} (hf : f.isFragment = true)
      (hfits : f.offset.toNat + f.payload.length ≤ Frame.maxPayload)
      (hinsert : insertFragment f (r.waiting (.of f) now).fragments = some fs)
      (hlength : completeLength fs = none) :
      Answers r f now
        ({ r.dropStale (.of f) now with
            groups := (r.dropStale (.of f) now).groups.insert (.of f)
              { r.waiting (.of f) now with fragments := fs } },
          .buffered)
  | complete {fs : List Frame} {n : Nat} {g : Frame} (hf : f.isFragment = true)
      (hfits : f.offset.toNat + f.payload.length ≤ Frame.maxPayload)
      (hinsert : insertFragment f (r.waiting (.of f) now).fragments = some fs)
      (hlength : completeLength fs = some n) (hassemble : assemble fs = some g) :
      Answers r f now
        ({ r.dropStale (.of f) now with
            groups := (r.dropStale (.of f) now).groups.erase (.of f) },
          .complete g)

section Views

variable (r : Reassembler) (f : Frame) (key : FragmentKey) (now : Nat)

lemma limits_dropStale : (r.dropStale key now).timeout = r.timeout ∧
    (r.dropStale key now).capacity = r.capacity := by
  unfold dropStale
  split
  · split <;> exact ⟨rfl, rfl⟩
  · exact ⟨rfl, rfl⟩

theorem get?_dropStale_of_ne {k : FragmentKey} (h : k ≠ key) :
    (r.dropStale key now).groups.get? k = r.groups.get? k := by
  unfold dropStale
  split
  · split
    · rw [Table.get?_erase, if_neg h]
    · rfl
  · rfl

theorem live?_eq_some {g : FragmentGroup} :
    r.live? key now = some g ↔ r.groups.get? key = some g ∧ now < g.deadline := by
  unfold live? dropStale
  cases hg : r.groups.get? key with
  | none => simp [hg]
  | some m =>
    dsimp only
    by_cases hs : m.deadline ≤ now
    · rw [if_pos hs, Table.get?_erase, if_pos rfl]
      simp only [Option.some.injEq, reduceCtorEq, false_iff, not_and]
      rintro rfl
      omega
    · rw [if_neg hs, hg]
      simp only [Option.some.injEq]
      constructor
      · rintro rfl
        exact ⟨rfl, by omega⟩
      · exact fun h => h.1

lemma get?_of_dropStale {k : FragmentKey} {g : FragmentGroup}
    (h : (r.dropStale key now).groups.get? k = some g) : r.groups.get? k = some g := by
  by_cases hk : k = key
  · subst hk
    exact ((r.live?_eq_some k now).mp h).1
  · rwa [get?_dropStale_of_ne r key now hk] at h

theorem answers_offer : r.Answers f now (r.offer f now) := by
  unfold offer
  cases hf : f.isFragment with
  | false => exact .whole hf
  | true =>
    simp only [Bool.not_true, Bool.false_eq_true, if_false]
    split
    · exact .tooLong hf ‹_›
    · rename_i hfits
      split
      · rename_i hroom
        simp only [Table.contains, Bool.and_eq_true, Bool.not_eq_true', Option.isSome_eq_false_iff,
          Option.isNone_iff_eq_none, decide_eq_true_eq, (limits_dropStale ..).2] at hroom
        exact .noRoom hf hroom.1 hroom.2
      · have hwaiting : ((r.dropStale (.of f) now).groups.get? (.of f)).getD
            ⟨[], now + (r.dropStale (.of f) now).timeout⟩ = r.waiting (.of f) now := by
          rw [(limits_dropStale ..).1]
          rfl
        simp only [store, hwaiting]
        cases hinsert : insertFragment f (r.waiting (.of f) now).fragments with
        | none => exact .duplicate hf hinsert
        | some fs =>
          obtain ⟨g, hassemble⟩ : ∃ g, assemble fs = some g := by
            obtain ⟨before, behind, -, rfl⟩ := insertFragment_eq_some hinsert
            cases before <;> exact ⟨_, rfl⟩
          cases hlength : completeLength fs with
          | none =>
            simp only [hlength]
            exact .buffered hf (by omega) hinsert hlength
          | some n =>
            simp only [hlength, hassemble]
            exact .complete hf (by omega) hinsert hlength hassemble

lemma limits_offer : (r.offer f now).1.timeout = r.timeout ∧
    (r.offer f now).1.capacity = r.capacity := by
  have h := r.answers_offer f now
  generalize r.offer f now = result at h ⊢
  cases h with
  | whole | tooLong => exact ⟨rfl, rfl⟩
  | noRoom | duplicate | buffered | complete => exact r.limits_dropStale _ now

theorem get?_offer_of_ne {k : FragmentKey} (h : k ≠ .of f) :
    (r.offer f now).1.groups.get? k = r.groups.get? k := by
  have ha := r.answers_offer f now
  generalize r.offer f now = result at ha ⊢
  cases ha with
  | whole | tooLong => rfl
  | noRoom | duplicate => exact r.get?_dropStale_of_ne _ now h
  | buffered => rw [Table.get?_insert, if_neg h, r.get?_dropStale_of_ne _ now h]
  | complete => rw [Table.get?_erase, if_neg h, r.get?_dropStale_of_ne _ now h]

end Views

def step (r : Reassembler) (now : Nat) : FragmentEvent → Reassembler
  | .offer f => (r.offer f now).1
  | .sweep => (r.sweep now).1
  | .clear => r.clear

def after (r : Reassembler) (history : FragmentHistory) : Reassembler :=
  history.foldl (fun r x => r.step x.1 x.2) r

/-- The answer to the offer at a place of a history. -/
def answer? (r : Reassembler) (history : FragmentHistory) (i : Nat) : Option Offer :=
  match history[i]? with
  | some (now, .offer f) => some ((r.after (history.take i)).offer f now).2
  | _ => none

section Histories

variable {r : Reassembler} {history : FragmentHistory}

lemma limits_after : (r.after history).timeout = r.timeout ∧
    (r.after history).capacity = r.capacity := by
  unfold after
  induction history generalizing r with
  | nil => exact ⟨rfl, rfl⟩
  | cons x rest ih =>
    obtain ⟨now, event⟩ := x
    have hstep : (r.step now event).timeout = r.timeout ∧
        (r.step now event).capacity = r.capacity := by
      cases event with
      | offer f => exact r.limits_offer f now
      | sweep | clear => exact ⟨rfl, rfl⟩
    rw [List.foldl_cons, ← hstep.1, ← hstep.2]
    exact ih

@[simp] theorem timeout_after : (r.after history).timeout = r.timeout := limits_after.1

@[simp] theorem capacity_after : (r.after history).capacity = r.capacity := limits_after.2

theorem after_take_succ {n now : Nat} {event : FragmentEvent}
    (h : history[n]? = some (now, event)) :
    r.after (history.take (n + 1)) = (r.after (history.take n)).step now event := by
  rw [List.take_add_one, h, after, after, List.foldl_append]
  rfl

theorem after_take_of_none {n : Nat} (h : history[n]? = none) :
    r.after (history.take (n + 1)) = r.after (history.take n) := by
  rw [List.take_add_one, h, Option.toList_none, List.append_nil]

theorem answer?_eq_some {i : Nat} {a : Offer} : r.answer? history i = some a ↔
    ∃ now f, history[i]? = some (now, .offer f) ∧
      ((r.after (history.take i)).offer f now).2 = a := by
  unfold answer?
  split
  · rename_i now f h
    rw [Option.some.injEq]
    constructor
    · exact fun ha => ⟨now, f, h, ha⟩
    · rintro ⟨now', f', h', ha⟩
      obtain ⟨rfl, hf⟩ := Prod.mk.inj (Option.some.inj (h.symm.trans h'))
      obtain rfl := FragmentEvent.offer.inj hf
      exact ha
  · rename_i h
    simp only [reduceCtorEq, false_iff, not_exists, not_and]
    intro now f hf
    exact absurd hf (h now f)

/-- A group that is there after an event was there before, or the event is the offer of a
fragment that joined it. -/
theorem get?_step {now : Nat} {event : FragmentEvent} {key : FragmentKey} {g : FragmentGroup}
    (h : (r.step now event).groups.get? key = some g) :
    r.groups.get? key = some g ∨ ∃ f, event = .offer f ∧ key = .of f ∧
      (r.offer f now).2 = .buffered ∧ f.isFragment = true ∧
      f.offset.toNat + f.payload.length ≤ Frame.maxPayload ∧
      insertFragment f (r.waiting key now).fragments = some g.fragments ∧
      completeLength g.fragments = none ∧ g.deadline = (r.waiting key now).deadline := by
  cases event with
  | offer f =>
    have ha := r.answers_offer f now
    simp only [step] at h
    generalize hoffer : r.offer f now = result at h ha
    cases ha with
    | whole | tooLong => exact .inl h
    | noRoom | duplicate => exact .inl (r.get?_of_dropStale _ now h)
    | buffered hf hfits hinsert hlength =>
      rw [Table.get?_insert] at h
      split at h
      · rename_i hkey
        obtain rfl := Option.some.inj h
        subst hkey
        exact .inr ⟨f, rfl, rfl, by rw [hoffer], hf, hfits, hinsert, hlength, rfl⟩
      · exact .inl (r.get?_of_dropStale _ now h)
    | complete =>
      rw [Table.get?_erase] at h
      split at h
      · cases h
      · exact .inl (r.get?_of_dropStale _ now h)
  | sweep =>
    simp only [step, sweep, Table.get?_filter, Option.filter_eq_some_iff] at h
    exact .inl h.1
  | clear => cases h

end Histories

end Reassembler

end GuestNat
