import GuestNat.Proofs.Reassembly.History

/-!
# What becomes of fragment groups

A group is opened by a fragment that finds none to join. It ends once: it becomes a datagram, a
sweep discards it as stale, a later fragment of the same datagram does so before a sweep, or the
whole table is cleared. So after any history the groups that were opened are those that have ended
and those that wait (`pending_after`).
-/
namespace GuestNat

def Offer.stores : Offer → Bool
  | .buffered | .complete _ => true
  | .whole | .rejected => false

def Offer.completes : Offer → Bool
  | .complete _ => true
  | _ => false

/-- The number of groups that were opened, and of those that have ended, by how they ended. -/
structure GroupTally where
  opened : Nat := 0
  completed : Nat := 0
  /-- A sweep discarded them as stale. -/
  swept : Nat := 0
  /-- A fragment of the same datagram came too late for them and discarded them as stale. -/
  overtaken : Nat := 0
  /-- They were discarded with the whole table. -/
  cleared : Nat := 0
  deriving DecidableEq, Repr

def GroupTally.add (s t : GroupTally) : GroupTally where
  opened := s.opened + t.opened
  completed := s.completed + t.completed
  swept := s.swept + t.swept
  overtaken := s.overtaken + t.overtaken
  cleared := s.cleared + t.cleared

namespace Reassembler

/-- Whether a group of a key waits that is stale at a time. -/
def stale (r : Reassembler) (key : FragmentKey) (now : Nat) : Bool :=
  (r.groups.get? key).any (·.deadline ≤ now)

/-- Whether the offer of a frame opens a group: the frame is stored, and no group that is not stale
waits for it. -/
def opens (r : Reassembler) (f : Frame) (now : Nat) : Bool :=
  (r.live? (.of f) now).isNone && (r.offer f now).2.stores

/-- Whether the offer of a frame discards a stale group. -/
def overtakes (r : Reassembler) (f : Frame) (now : Nat) : Bool :=
  f.isFragment && decide (f.offset.toNat + f.payload.length ≤ Frame.maxPayload) &&
    r.stale (.of f) now

/-- What an event does to groups. -/
def tallyOf (r : Reassembler) (now : Nat) : FragmentEvent → GroupTally
  | .offer f =>
    { opened := (r.opens f now).toNat
      completed := (r.offer f now).2.completes.toNat
      overtaken := (r.overtakes f now).toNat }
  | .sweep => { swept := (r.sweep now).2 }
  | .clear => { cleared := r.pending }

/-- What a history does to groups. -/
def tally (r : Reassembler) : FragmentHistory → GroupTally
  | [] => {}
  | (now, event) :: rest => (r.tallyOf now event).add ((r.step now event).tally rest)

section

variable (r : Reassembler) (f : Frame) (key : FragmentKey) (now : Nat)

lemma pending_dropStale : (r.dropStale key now).pending + (r.stale key now).toNat = r.pending := by
  unfold dropStale stale
  cases hg : r.groups.get? key with
  | none => rfl
  | some g =>
    by_cases hstale : g.deadline ≤ now
    · simp only [if_pos hstale, Option.any_some, decide_eq_true hstale]
      exact Table.size_erase hg
    · simp only [if_neg hstale, Option.any_some, decide_eq_false hstale]
      rfl

lemma pending_store : (r.store key f now).1.pending + (r.store key f now).2.completes.toNat =
    r.pending + ((r.groups.get? key).isNone && (r.store key f now).2.stores).toNat := by
  unfold store
  dsimp only
  split
  · simp [Offer.completes, Offer.stores]
  · split
    · cases hg : r.groups.get? key with
      | none =>
        simp only [pending, Table.erase_eq_self hg]
        rfl
      | some g => exact Table.size_erase hg
    · rw [pending, Table.size_insert]
      cases hg : r.groups.get? key with
      | none =>
        rw [if_neg ((r.groups.get?_eq_none_iff key).mp hg)]
        rfl
      | some g =>
        have hmem : key ∈ r.groups.keys := by
          by_contra hnone
          rw [← Table.get?_eq_none_iff, hg] at hnone
          cases hnone
        rw [if_pos hmem]
        rfl

/-- An offer changes the number of groups by the one that it opens, the one that it completes and
the one that it finds stale. -/
lemma pending_offer : (r.offer f now).1.pending + (r.offer f now).2.completes.toNat +
    (r.overtakes f now).toNat = r.pending + (r.opens f now).toNat := by
  cases hf : f.isFragment with
  | false => simp [opens, overtakes, offer, hf, Offer.stores, Offer.completes]
  | true =>
    by_cases hlong : Frame.maxPayload < f.offset.toNat + f.payload.length
    · have hfits : ¬f.offset.toNat + f.payload.length ≤ Frame.maxPayload := Nat.not_le.mpr hlong
      simp [opens, overtakes, offer, hf, hlong, hfits, Offer.stores, Offer.completes]
    · have hdrop := r.pending_dropStale (.of f) now
      have hovertakes : r.overtakes f now = r.stale (.of f) now := by
        simp [overtakes, hf, Nat.not_lt.mp hlong]
      rw [hovertakes, ← hdrop]
      simp only [opens, live?, offer, hf, hlong, Bool.not_true, Bool.false_eq_true, if_false]
      split
      · simp only [Offer.stores, Offer.completes, Bool.and_false, Bool.toNat_false]
        omega
      · have hstore := (r.dropStale (.of f) now).pending_store f (.of f) now
        omega

lemma pending_sweep : (r.sweep now).1.pending + (r.sweep now).2 = r.pending := by
  have hle : (r.groups.filter fun _ g => now < g.deadline).size ≤ r.groups.size :=
    List.length_filter_le ..
  exact Nat.add_sub_cancel' hle

lemma pending_step (event : FragmentEvent) :
    let t := r.tallyOf now event
    (r.step now event).pending + t.completed + t.swept + t.overtaken + t.cleared =
      r.pending + t.opened := by
  cases event with
  | offer f => exact r.pending_offer f now
  | sweep => exact r.pending_sweep now
  | clear => exact Nat.zero_add _

end

/-- Of the groups that were opened, or waited from the start, each has ended in one of the four ways
or still waits. -/
theorem pending_after (r : Reassembler) (history : FragmentHistory) :
    let t := r.tally history
    (r.after history).pending + t.completed + t.swept + t.overtaken + t.cleared =
      r.pending + t.opened := by
  induction history generalizing r with
  | nil => rfl
  | cons x rest ih =>
    have hstep := r.pending_step x.1 x.2
    have hrest := ih (r.step x.1 x.2)
    dsimp only [tally, GroupTally.add] at hstep hrest ⊢
    change ((r.step x.1 x.2).after rest).pending + _ + _ + _ + _ = _
    omega

theorem tally_append (r : Reassembler) (xs ys : FragmentHistory) :
    r.tally (xs ++ ys) = (r.tally xs).add ((r.after xs).tally ys) := by
  induction xs generalizing r with
  | nil => simp [tally, GroupTally.add, after]
  | cons x rest ih =>
    have hafter : r.after (x :: rest) = (r.step x.1 x.2).after rest := rfl
    rw [List.cons_append, tally, tally, ih, hafter]
    simp only [GroupTally.add, Nat.add_assoc]

/-- Unless the table is cleared, no group is discarded with it. -/
theorem cleared_tally (r : Reassembler) {history : FragmentHistory}
    (h : ∀ x ∈ history, x.2 ≠ .clear) : (r.tally history).cleared = 0 := by
  induction history generalizing r with
  | nil => rfl
  | cons x rest ih =>
    obtain ⟨hx, hrest⟩ := List.forall_mem_cons.mp h
    have hfirst : (r.tallyOf x.1 x.2).cleared = 0 := by
      cases hevent : x.2 with
      | offer f => rfl
      | sweep => rfl
      | clear => exact absurd hevent hx
    simp only [tally, GroupTally.add, hfirst, ih _ hrest]

end Reassembler

end GuestNat
