import GuestNat.Proofs.Reassembly.Accounting
import GuestNat.Proofs.Reassembly.Provenance
import Mathlib.Data.List.Induction

/-!
# What a table of fragments looks like

After any history there are no more groups than there is room for, and each holds fragments of its
own datagram, in strictly ascending order, that are not complete yet (`Reassembler.Sound`). A group
that a fragment completes is assembled to the length at which it was found complete, and a fragment
that is refused changes no group that is not stale (`Reassembler.representation_kept`).
-/
namespace GuestNat

/-- Fragments of one datagram in ascending order of offset, none of which ends too far out. -/
structure FragmentsOf (key : FragmentKey) (fs : List Frame) : Prop where
  key_eq : ∀ f ∈ fs, key = .of f
  fragment : ∀ f ∈ fs, f.isFragment = true
  ascending : fs.Pairwise (·.offset < ·.offset)
  fits : ∀ f ∈ fs, f.offset.toNat + f.payload.length ≤ Frame.maxPayload

/-- Puts a fragment at its place among others that are given from the last to the first, unless one
of its offset is met on the way. -/
def insertDescending (f : Frame) : List Frame → Option (List Frame)
  | [] => some [f]
  | g :: rest =>
    if g.offset = f.offset then none
    else if g.offset < f.offset then some (f :: g :: rest)
    else (insertDescending f rest).map (g :: ·)

section Insert

variable {f g : Frame} {fs fs' : List Frame}

lemma mem_insertFragment (h : insertFragment f fs = some fs') : g ∈ fs' ↔ g = f ∨ g ∈ fs := by
  obtain ⟨before, behind, rfl, rfl⟩ := insertFragment_eq_some h
  rw [List.mem_append, List.mem_cons, List.mem_append]
  exact or_left_comm

lemma forall_insertFragment {P : Frame → Prop} (h : insertFragment f fs = some fs') (hf : P f)
    (hfs : ∀ x ∈ fs, P x) : ∀ x ∈ fs', P x := by
  intro x hx
  rcases (mem_insertFragment h).mp hx with rfl | hx
  · exact hf
  · exact hfs x hx

lemma pairwise_insertFragment (hfs : fs.Pairwise (·.offset < ·.offset))
    (h : insertFragment f fs = some fs') : fs'.Pairwise (·.offset < ·.offset) := by
  induction fs generalizing fs' with
  | nil =>
    obtain rfl := Option.some.inj h
    exact List.pairwise_singleton _ _
  | cons g rest ih =>
    obtain ⟨hg, hrest⟩ := List.pairwise_cons.mp hfs
    rw [insertFragment] at h
    split_ifs at h with hlt heq
    · obtain rfl := Option.some.inj h
      refine List.pairwise_cons.mpr ⟨?_, hfs⟩
      intro x hx
      rcases List.mem_cons.mp hx with rfl | hx
      · exact hlt
      · exact UInt16.lt_trans hlt (hg x hx)
    · obtain ⟨ys, hys, rfl⟩ := Option.map_eq_some_iff.mp h
      have hgf : g.offset < f.offset :=
        UInt16.lt_of_le_of_ne (UInt16.not_lt.mp hlt) (Ne.symm heq)
      exact List.pairwise_cons.mpr ⟨forall_insertFragment hys hgf hg, ih hrest hys⟩

lemma insertFragment_eq_none_iff (hfs : fs.Pairwise (·.offset < ·.offset)) :
    insertFragment f fs = none ↔ ∃ g ∈ fs, g.offset = f.offset := by
  induction fs with
  | nil => simp [insertFragment]
  | cons g rest ih =>
    obtain ⟨hg, hrest⟩ := List.pairwise_cons.mp hfs
    rw [insertFragment, List.exists_mem_cons_iff]
    split_ifs with hlt heq
    · simp only [false_iff, not_or, not_exists, not_and]
      refine ⟨(UInt16.ne_of_lt hlt).symm, fun x hx => ?_⟩
      exact (UInt16.ne_of_lt (UInt16.lt_trans hlt (hg x hx))).symm
    · simp [heq]
    · rw [Option.map_eq_none_iff, ih hrest]
      exact (or_iff_right (Ne.symm heq)).symm

lemma insertFragment_of_gt (h : ∀ g ∈ fs, g.offset < f.offset) :
    insertFragment f fs = some (fs ++ [f]) := by
  induction fs with
  | nil => rfl
  | cons g rest ih =>
    obtain ⟨hg, hrest⟩ := List.forall_mem_cons.mp h
    rw [insertFragment, if_neg (UInt16.lt_asymm hg), if_neg (UInt16.ne_of_lt hg).symm, ih hrest]
    rfl

lemma insertFragment_append_of_lt (h : f.offset < g.offset) :
    insertFragment f (fs ++ [g]) = (insertFragment f fs).map (· ++ [g]) := by
  induction fs with
  | nil => simp [insertFragment, h]
  | cons x rest ih =>
    rw [List.cons_append, insertFragment, insertFragment]
    split_ifs
    · rfl
    · rfl
    · rw [ih, Option.map_map, Option.map_map]
      rfl

/-- The place of a fragment may be sought from either end. -/
theorem insertDescending_reverse (hfs : fs.Pairwise (·.offset < ·.offset)) :
    (insertDescending f fs.reverse).map List.reverse = insertFragment f fs := by
  induction fs using List.reverseRecOn with
  | nil => rfl
  | append_singleton fs g ih =>
    obtain ⟨hrest, -, hg⟩ := List.pairwise_append.mp hfs
    rw [List.reverse_append, List.reverse_singleton, List.singleton_append, insertDescending]
    split_ifs with heq hlt
    · exact ((insertFragment_eq_none_iff hfs).mpr ⟨g, by simp, heq⟩).symm
    · have hall : ∀ x ∈ fs ++ [g], x.offset < f.offset := by
        intro x hx
        rcases List.mem_append.mp hx with hx | hx
        · exact UInt16.lt_trans (hg x hx g (List.mem_singleton_self g)) hlt
        · rwa [List.mem_singleton.mp hx]
      rw [insertFragment_of_gt hall]
      simp
    · have hbehind : f.offset < g.offset :=
        UInt16.lt_of_le_of_ne (UInt16.not_lt.mp hlt) (Ne.symm heq)
      rw [insertFragment_append_of_lt hbehind, ← ih hrest, Option.map_map, Option.map_map]
      congr 1
      funext ys
      simp

lemma FragmentsOf.insert (hfs : FragmentsOf (.of f) fs) (hf : f.isFragment = true)
    (hfits : f.offset.toNat + f.payload.length ≤ Frame.maxPayload)
    (h : insertFragment f fs = some fs') : FragmentsOf (.of f) fs' where
  key_eq := forall_insertFragment h rfl hfs.key_eq
  fragment := forall_insertFragment h hf hfs.fragment
  ascending := pairwise_insertFragment hfs.ascending h
  fits := forall_insertFragment h hfits hfs.fits

end Insert

/-- Complete fragments are assembled to the length at which they are found complete, whatever lies
behind the last. A whole datagram in front would be complete by itself and yet be assembled with
what lies behind it; but it is no fragment. -/
theorem assemble_of_completeLength {fs : List Frame} {n : Nat}
    (hfs : ∀ f ∈ fs, f.isFragment = true) (h : completeLength fs = some n) :
    ∃ whole, assemble fs = some whole ∧ whole.payload.length = n := by
  obtain ⟨run, rest, rfl, hrun, rfl⟩ := completeLengthFrom_eq_some h
  obtain ⟨head, tail, rfl, htail⟩ := Reassembler.exists_cons_of_run hrun fun f hf =>
    hfs f (List.mem_append_left rest hf)
  refine ⟨_, hrun.assemble_append htail rest, ?_⟩
  rw [Nat.zero_add]
  rfl

namespace Reassembler

/-- A table has no more groups than it has room for, and each waits with fragments of its own. -/
structure Sound (r : Reassembler) : Prop where
  size_le : r.groups.size ≤ r.capacity
  nonempty : ∀ key g, r.groups.get? key = some g → g.fragments ≠ []
  fragments : ∀ key g, r.groups.get? key = some g → FragmentsOf key g.fragments
  incomplete : ∀ key g, r.groups.get? key = some g → completeLength g.fragments = none

/-- A fragment of this offset waits in a group that is not stale at a time. -/
def Holds (r : Reassembler) (f : Frame) (now : Nat) : Prop :=
  ∃ g, r.live? (.of f) now = some g ∧ ∃ h ∈ g.fragments, h.offset = f.offset

variable {r : Reassembler} {f : Frame} {key : FragmentKey} {now : Nat}

/-- The group that a fragment joins holds others of its datagram, or none. -/
lemma Sound.waiting (h : r.Sound) : FragmentsOf key (r.waiting key now).fragments := by
  unfold Reassembler.waiting
  cases hlive : r.live? key now with
  | none =>
    exact ⟨List.forall_mem_nil _, List.forall_mem_nil _, List.Pairwise.nil, List.forall_mem_nil _⟩
  | some g => exact h.fragments key g ((r.live?_eq_some key now).mp hlive).1

lemma size_offer_le (h : r.groups.size ≤ r.capacity) :
    (r.offer f now).1.groups.size ≤ r.capacity := by
  have hdrop := r.pending_dropStale (.of f) now
  have hstore := (r.dropStale (.of f) now).pending_store f (.of f) now
  unfold pending at hdrop hstore
  unfold offer
  split
  · exact h
  · split
    · exact h
    · dsimp only
      split
      · dsimp only
        omega
      · rename_i hroom
        rw [(limits_dropStale ..).2, Table.contains] at hroom
        cases hget : (r.dropStale (.of f) now).groups.get? (.of f) with
        | none =>
          have hfree : (r.dropStale (.of f) now).groups.size < r.capacity := by
            simpa [hget] using hroom
          have hone := Bool.toNat_le ((none : Option FragmentGroup).isNone &&
            ((r.dropStale (.of f) now).store (.of f) f now).2.stores)
          rw [hget] at hstore
          omega
        | some g =>
          rw [hget, Option.isNone_some, Bool.false_and, Bool.toNat_false] at hstore
          omega

/-- Every event leaves a table sound. -/
theorem Sound.step (h : r.Sound) (event : FragmentEvent) : (r.step now event).Sound where
  size_le := by
    cases event with
    | offer f =>
      rw [Reassembler.step, (r.limits_offer f now).2]
      exact size_offer_le h.size_le
    | sweep => exact Nat.le_trans (List.length_filter_le ..) h.size_le
    | clear => exact Nat.zero_le _
  nonempty := by
    intro key g hg
    rcases get?_step hg with hold | ⟨f, -, -, -, -, -, hinsert, -, -⟩
    · exact h.nonempty key g hold
    · exact List.ne_nil_of_mem ((mem_insertFragment hinsert).mpr (.inl rfl))
  fragments := by
    intro key g hg
    rcases get?_step hg with hold | ⟨f, -, rfl, -, hf, hfits, hinsert, -, -⟩
    · exact h.fragments key g hold
    · exact h.waiting.insert hf hfits hinsert
  incomplete := by
    intro key g hg
    rcases get?_step hg with hold | ⟨f, -, -, -, -, -, -, hlength, -⟩
    · exact h.incomplete key g hold
    · exact hlength

theorem Sound.after (h : r.Sound) (history : FragmentHistory) : (r.after history).Sound := by
  unfold Reassembler.after
  induction history generalizing r with
  | nil => exact h
  | cons x rest ih => exact ih (h.step x.2)

lemma sound_new (timeout capacity : Nat) : ({ timeout, capacity } : Reassembler).Sound where
  size_le := Nat.zero_le _
  nonempty := by rintro key g ⟨⟩
  fragments := by rintro key g ⟨⟩
  incomplete := by rintro key g ⟨⟩

lemma dropStale_of_live {g : FragmentGroup} (h : r.live? key now = some g) :
    r.dropStale key now = r := by
  obtain ⟨hg, hlive⟩ := (r.live?_eq_some key now).mp h
  unfold dropStale
  rw [hg]
  exact if_neg (Nat.not_le.mpr hlive)

lemma live?_dropStale (k : FragmentKey) : (r.dropStale k now).live? key now = r.live? key now := by
  ext g
  rw [live?_eq_some]
  by_cases hk : key = k
  · subst hk
    change r.live? key now = some g ∧ now < g.deadline ↔ _
    refine and_iff_left_of_imp fun hg => ?_
    exact ((r.live?_eq_some key now).mp hg).2
  · rw [r.get?_dropStale_of_ne k now hk, live?_eq_some]

lemma Sound.offer_of_refused (h : r.Sound) (hf : f.isFragment = true)
    (hrefused : Frame.maxPayload < f.offset.toNat + f.payload.length ∨ r.Holds f now) :
    r.offer f now = (r, .rejected) := by
  rcases hrefused with hlong | ⟨g, hlive, htaken⟩
  · simp [offer, hf, hlong]
  · have hdrop := dropStale_of_live hlive
    have hwaiting : r.waiting (.of f) now = g := by
      rw [Reassembler.waiting, hlive, Option.getD_some]
    have hnone : insertFragment f (r.waiting (.of f) now).fragments = none := by
      rw [insertFragment_eq_none_iff h.waiting.ascending, hwaiting]
      exact htaken
    have ha := r.answers_offer f now
    generalize r.offer f now = result at ha ⊢
    cases ha with
    | whole hwhole => rw [hf] at hwhole; cases hwhole
    | tooLong => rfl
    | noRoom _ hempty => rw [hlive] at hempty; cases hempty
    | duplicate => rw [hdrop]
    | buffered _ _ hinsert | complete _ _ hinsert => rw [hnone] at hinsert; cases hinsert

/-- A fragment that is refused, for whatever reason, changes no group that is not stale. -/
lemma live?_of_rejected (h : (r.offer f now).2 = .rejected) :
    (r.offer f now).1.live? key now = r.live? key now := by
  have ha := r.answers_offer f now
  generalize r.offer f now = result at ha h ⊢
  cases ha with
  | whole | buffered | complete => cases h
  | tooLong => rfl
  | noRoom | duplicate => exact live?_dropStale _

/-- After every history of a new reassembler, whatever was offered and when, the table is sound.
A fragment that is offered next is put at the same place from either end of its group, and leaves
there fragments of its own in ascending order. Fragments that are complete are assembled to the
length that was counted. A fragment that ends too far out, or whose offset is taken, is refused
and changes nothing, and no fragment that is refused changes a group that is not stale. -/
theorem representation_kept (timeout capacity : Nat) (history : FragmentHistory) :
    let r := ({ timeout, capacity } : Reassembler).after history
    r.groups.size ≤ capacity ∧
    (∀ key g, r.groups.get? key = some g → g.fragments ≠ [] ∧ FragmentsOf key g.fragments ∧
      completeLength g.fragments = none) ∧
    (∀ f now, let fs := (r.waiting (.of f) now).fragments
      insertFragment f fs = (insertDescending f fs.reverse).map List.reverse) ∧
    (∀ f now fs, f.isFragment = true → f.offset.toNat + f.payload.length ≤ Frame.maxPayload →
      insertFragment f (r.waiting (.of f) now).fragments = some fs → FragmentsOf (.of f) fs) ∧
    (∀ fs n, (∀ f ∈ fs, f.isFragment = true) → completeLength fs = some n →
      ∃ whole, assemble fs = some whole ∧ whole.payload.length = n) ∧
    (∀ f now, f.isFragment = true →
      Frame.maxPayload < f.offset.toNat + f.payload.length ∨ r.Holds f now →
      r.offer f now = (r, .rejected)) ∧
    ∀ f now key, (r.offer f now).2 = .rejected →
      (r.offer f now).1.live? key now = r.live? key now := by
  intro r
  have hsound : r.Sound := (sound_new timeout capacity).after history
  have hcapacity : r.capacity = capacity := capacity_after
  refine ⟨hcapacity ▸ hsound.size_le, ?_, ?_, ?_, ?_, ?_, ?_⟩
  · exact fun key g hg =>
      ⟨hsound.nonempty key g hg, hsound.fragments key g hg, hsound.incomplete key g hg⟩
  · exact fun f now => (insertDescending_reverse hsound.waiting.ascending).symm
  · exact fun f now fs hf hfits hinsert => hsound.waiting.insert hf hfits hinsert
  · exact fun fs n hfs hlength => assemble_of_completeLength hfs hlength
  · exact fun f now hf hrefused => hsound.offer_of_refused hf hrefused
  · exact fun f now key hrejected => live?_of_rejected hrejected

/-- The last fragment and one that lies behind it wait in a table with room for one group. The
last comes again, and then a fragment of another datagram; the first completes ten octets. -/
theorem representation_kept_behind_last :
    let first : Frame :=
      { source := ⟨10, 0, 0, 5⟩, destination := ⟨93, 184, 216, 34⟩, protocol := .udp
        identification := 7, moreFragments := true, payload := [0, 1, 2, 3, 4, 5, 6, 7] }
    let last : Frame := { first with offset := 8, moreFragments := false, payload := [8, 9] }
    let behind : Frame := { first with offset := 24, payload := [24] }
    let other : Frame := { first with identification := 8 }
    let r := ({ timeout := 1000, capacity := 1 } : Reassembler).after
      [(0, .offer behind), (5, .offer last)]
    r.groups.size ≤ 1 ∧ r.offer last 10 = (r, .rejected) ∧
      (r.offer other 10).2 = .rejected ∧
      (r.offer other 10).1.live? (.of last) 10 = r.live? (.of last) 10 ∧
      FragmentsOf (.of first) [first, last, behind] ∧
      completeLength [first, last, behind] = some 10 ∧
      ∃ whole, assemble [first, last, behind] = some whole ∧ whole.payload.length = 10 := by
  intro first last behind other r
  obtain ⟨hsize, -, -, hjoined, hassembled, hrefused, hrejected⟩ :=
    representation_kept 1000 1 [(0, .offer behind), (5, .offer last)]
  have hheld : r.Holds last 10 := ⟨⟨[last, behind], 1000⟩, rfl, last, List.mem_cons_self, rfl⟩
  have hfull : (r.offer other 10).2 = .rejected := by decide +kernel
  have hlength : completeLength [first, last, behind] = some 10 := by decide
  refine ⟨hsize, hrefused last 10 (by decide) (.inr hheld), hfull, hrejected other 10 _ hfull, ?_,
    hlength, hassembled _ 10 (by decide) hlength⟩
  exact hjoined first 10 _ (by decide) (by decide) rfl

end Reassembler

end GuestNat
