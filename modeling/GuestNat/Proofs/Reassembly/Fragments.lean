import GuestNat.Reassembly
import Mathlib.Order.Basic

/-!
# Runs of fragments

Fragments are complete when they begin with a run: they follow each other without gaps
from offset zero, and only the last of the run is marked as the last. What is assembled
is the content of the run; fragments behind it are left out. A list that holds only some
fragments of a run is never complete, and it takes each missing one at its place.
-/
namespace GuestNat

/-- Fragments that follow each other without gaps from an offset on, of which only the last
is marked as the last. -/
inductive FragmentRun : Nat → List Frame → Prop
  | last {start : Nat} {f : Frame} (hoffset : f.offset.toNat = start)
      (hmore : f.moreFragments = false) : FragmentRun start [f]
  | more {start : Nat} {f : Frame} {fs : List Frame} (hoffset : f.offset.toNat = start)
      (hmore : f.moreFragments = true) (hrest : FragmentRun (start + f.payload.length) fs) :
      FragmentRun start (f :: fs)

/-- The payloads of fragments in order. -/
def joined (fs : List Frame) : Bytes := fs.flatMap (·.payload)

@[simp] theorem joined_cons (f : Frame) (fs : List Frame) :
    joined (f :: fs) = f.payload ++ joined fs := rfl

/-- The datagram with the header of a fragment and the payloads of many. -/
def datagramOf (head : Frame) (fs : List Frame) : Frame :=
  { head with offset := 0, moreFragments := false, payload := joined fs }

namespace FragmentRun

variable {start : Nat} {run : List Frame}

lemma ne_nil (h : FragmentRun start run) : run ≠ [] := by
  cases h <;> exact List.cons_ne_nil _ _

theorem completeLengthFrom_append (h : FragmentRun start run) (rest : List Frame) :
    completeLengthFrom start (run ++ rest) = some (start + (joined run).length) := by
  induction h with
  | last hoffset hmore => simp [completeLengthFrom, hoffset, hmore, joined]
  | more hoffset hmore hrest ih =>
    simp only [List.cons_append, completeLengthFrom, hoffset, hmore, ne_eq, not_true_eq_false,
      if_false, if_true, joined_cons, List.length_append]
    rw [ih, Nat.add_assoc]

/-- The fragments up to the first that is marked as the last are the run. -/
theorem throughLast_append (h : FragmentRun start run) (rest : List Frame) :
    throughLast (run ++ rest) = run := by
  induction h with
  | last hoffset hmore => simp [throughLast, hmore]
  | more hoffset hmore hrest ih => simp [throughLast, hmore, ih]

/-- What is assembled is the content of the run, with the header of its first fragment. -/
theorem assemble_append {head : Frame} {fs : List Frame} (h : FragmentRun start (head :: fs))
    (hfs : fs ≠ []) (rest : List Frame) :
    assemble (head :: fs ++ rest) = some (datagramOf head (head :: fs)) := by
  cases h with
  | last => exact absurd rfl hfs
  | more hoffset hmore hrest =>
    simp only [List.cons_append, assemble, hrest.throughLast_append]
    rfl

lemma le_offset (h : FragmentRun start run) : ∀ f ∈ run, start ≤ f.offset.toNat := by
  induction h with
  | last hoffset hmore => simp [hoffset]
  | more hoffset hmore hrest ih =>
    intro g hg
    rcases List.mem_cons.mp hg with rfl | hg
    · omega
    · have := ih g hg
      omega

lemma end_le (h : FragmentRun start run) :
    ∀ f ∈ run, f.offset.toNat + f.payload.length ≤ start + (joined run).length := by
  induction h with
  | last hoffset hmore => simp [joined, hoffset]
  | more hoffset hmore hrest ih =>
    intro g hg
    rw [joined_cons, List.length_append]
    rcases List.mem_cons.mp hg with rfl | hg
    · omega
    · have := ih g hg
      omega

lemma exists_end (h : FragmentRun start run) :
    ∃ f ∈ run, f.offset.toNat + f.payload.length = start + (joined run).length := by
  induction h with
  | last hoffset hmore => exact ⟨_, List.mem_singleton_self _, by simp [joined, hoffset]⟩
  | more hoffset hmore hrest ih =>
    obtain ⟨g, hg, hend⟩ := ih
    refine ⟨g, List.mem_cons_of_mem _ hg, ?_⟩
    rw [hend, joined_cons, List.length_append, Nat.add_assoc]

/-- The offsets of a run ascend if no fragment is empty. -/
lemma pairwise_offset (h : FragmentRun start run) (hne : ∀ f ∈ run, f.payload ≠ []) :
    run.Pairwise (·.offset < ·.offset) := by
  induction h with
  | last => exact List.pairwise_singleton _ _
  | more hoffset hmore hrest ih =>
    rw [List.forall_mem_cons] at hne
    refine List.pairwise_cons.mpr ⟨?_, ih hne.2⟩
    intro g hg
    have hle := hrest.le_offset g hg
    have hpos := List.length_pos_iff.mpr hne.1
    rw [UInt16.lt_iff_toNat_lt]
    omega

end FragmentRun

/-- Complete fragments begin with a run. -/
theorem completeLengthFrom_eq_some {start n : Nat} {fs : List Frame}
    (h : completeLengthFrom start fs = some n) :
    ∃ run rest, fs = run ++ rest ∧ FragmentRun start run ∧ n = start + (joined run).length := by
  induction fs generalizing start with
  | nil => cases h
  | cons f fs ih =>
    simp only [completeLengthFrom] at h
    split at h
    · cases h
    · rename_i hoffset
      rw [ne_eq, Classical.not_not] at hoffset
      split at h
      · rename_i hmore
        obtain ⟨run, rest, rfl, hrun, hn⟩ := ih h
        refine ⟨f :: run, rest, rfl, .more hoffset hmore hrun, ?_⟩
        rw [hn, joined_cons, List.length_append, Nat.add_assoc]
      · rename_i hmore
        refine ⟨[f], fs, rfl, .last hoffset (Bool.eq_false_iff.mpr hmore), ?_⟩
        rw [← Option.some.inj h]
        simp [joined]

section Insert

variable {f : Frame} {fs fs' : List Frame}

/-- A fragment that is put into a list stands somewhere in it, and nothing else moves. -/
theorem insertFragment_eq_some (h : insertFragment f fs = some fs') :
    ∃ before behind, fs = before ++ behind ∧ fs' = before ++ f :: behind := by
  induction fs generalizing fs' with
  | nil => exact ⟨[], [], rfl, (Option.some.inj h).symm⟩
  | cons g fs ih =>
    simp only [insertFragment] at h
    split at h
    · exact ⟨[], g :: fs, rfl, (Option.some.inj h).symm⟩
    · split at h
      · cases h
      · obtain ⟨ys, hys, rfl⟩ := Option.map_eq_some_iff.mp h
        obtain ⟨before, behind, rfl, rfl⟩ := ih hys
        exact ⟨g :: before, behind, rfl, rfl⟩

lemma insertFragment_of_lt (h : ∀ g ∈ fs, f.offset < g.offset) :
    insertFragment f fs = some (f :: fs) := by
  cases fs with
  | nil => rfl
  | cons g fs =>
    have hlt := h g (List.mem_cons_self ..)
    simp [insertFragment, hlt]

/-- Of fragments with ascending offsets some are there: one of them is put at its place
unless it is there already. -/
theorem insertFragment_filter {pieces : List Frame}
    (hsorted : pieces.Pairwise (·.offset < ·.offset)) (hf : f ∈ pieces) (p : Frame → Bool) :
    insertFragment f (pieces.filter p) =
      if p f then none else some (pieces.filter fun g => p g || g = f) := by
  induction pieces with
  | nil => cases hf
  | cons g rest ih =>
    obtain ⟨hlt, hrest⟩ := List.pairwise_cons.mp hsorted
    by_cases hfg : f = g
    · subst hfg
      cases hp : p f with
      | true => simp [hp, insertFragment]
      | false =>
        have hsame : rest.filter (fun g => p g || g = f) = rest.filter p := by
          apply List.filter_congr
          intro g hg
          have hne : g ≠ f := by
            rintro rfl
            exact UInt16.lt_irrefl _ (hlt g hg)
          simp [hne]
        have hbehind : ∀ g ∈ rest.filter p, f.offset < g.offset :=
          fun g hg => hlt g (List.mem_filter.mp hg).1
        simp [hp, hsame, insertFragment_of_lt hbehind]
    · have hmem : f ∈ rest := (List.mem_cons.mp hf).resolve_left hfg
      have hgf := hlt f hmem
      cases hp : p g with
      | true =>
        have hnlt : ¬ f.offset < g.offset := UInt16.lt_asymm hgf
        have hne : f.offset ≠ g.offset := by
          intro he
          rw [he] at hgf
          exact UInt16.lt_irrefl _ hgf
        rw [List.filter_cons_of_pos hp, insertFragment, if_neg hnlt, if_neg hne, ih hrest hmem]
        cases p f <;> simp [hp]
      | false => simp [hp, Ne.symm hfg, ih hrest hmem]

lemma mem_or_of_insert {α : Type} {before behind run rest : List α} {x : α}
    (h : before ++ x :: behind = run ++ rest) :
    x ∈ run ∨ ∃ more, before ++ behind = run ++ more := by
  rcases List.append_eq_append_iff.mp h with ⟨c, hrun, hbehind⟩ | ⟨c, hbefore, -⟩
  · cases c with
    | nil =>
      rw [List.append_nil] at hrun
      exact .inr ⟨behind, by rw [hrun]⟩
    | cons y c =>
      obtain ⟨rfl, -⟩ := List.cons.inj hbehind
      exact .inl (by rw [hrun]; simp)
  · exact .inr ⟨c ++ behind, by rw [hbefore, List.append_assoc]⟩

end Insert

/-- Some, but not all, fragments of a run are never complete. -/
theorem FragmentRun.completeLengthFrom_filter {start : Nat} {run : List Frame}
    (h : FragmentRun start run) (hne : ∀ f ∈ run, f.payload ≠ []) {p : Frame → Bool}
    (hmissing : ∃ f ∈ run, p f = false) : completeLengthFrom start (run.filter p) = none := by
  induction h with
  | last hoffset hmore =>
    obtain ⟨f, hf, hpf⟩ := hmissing
    rw [List.mem_singleton.mp hf] at hpf
    simp [hpf, completeLengthFrom]
  | @more start f fs hoffset hmore hrest ih =>
    rw [List.forall_mem_cons] at hne
    cases hp : p f with
    | true =>
      obtain ⟨g, hg, hpg⟩ := hmissing
      have hgfs : g ∈ fs := by
        refine (List.mem_cons.mp hg).resolve_left ?_
        rintro rfl
        rw [hp] at hpg
        cases hpg
      rw [List.filter_cons_of_pos hp]
      simp only [completeLengthFrom, hoffset, hmore, ne_eq, not_true_eq_false, if_false, if_true]
      exact ih hne.2 ⟨g, hgfs, hpg⟩
    | false =>
      -- The first fragment that is there lies behind the gap.
      rw [List.filter_cons_of_neg (by simp [hp])]
      have hgap : ∀ g ∈ fs.filter p, g.offset.toNat ≠ start := by
        intro g hg
        have hle := hrest.le_offset g (List.mem_filter.mp hg).1
        have hpos := List.length_pos_iff.mpr hne.1
        omega
      cases hfs : fs.filter p with
      | nil => rfl
      | cons g rest =>
        have hg := hgap g (by rw [hfs]; exact List.mem_cons_self ..)
        simp [completeLengthFrom, hg]

end GuestNat
