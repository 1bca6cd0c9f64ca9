import GuestNat.Proofs.Reassembly.History
import Mathlib.Data.List.Nodup

/-!
# Where a reassembled datagram comes from

Whatever was offered, in any order and at any times, a datagram that is completed is the
content of fragments that were accepted into one group, and no other datagram has anything
of theirs (`complete_provenance`). The invariant tells for every group that waits where its
fragments stand in the history (`Stored`); the fragment that completes a group joins such a
group, and the group is gone afterwards.
-/
namespace GuestNat.Reassembler

/-- A group of a key was opened at a place and time of a history, and has been there after
every event since, up to a number of events. -/
structure Opened (r : Reassembler) (history : FragmentHistory) (key : FragmentKey)
    (start time n : Nat) : Prop where
  le : start ≤ n
  offered : ∃ f, history[start]? = some (time, .offer f) ∧ key = .of f
  fresh : (r.after (history.take start)).live? key time = none
  stored : ∀ m, start < m → m ≤ n → ∃ g,
    (r.after (history.take m)).groups.get? key = some g ∧ g.deadline = time + r.timeout

/-- A fragment of a key with its place in a history, which is not before another place. -/
structure Offered (history : FragmentHistory) (key : FragmentKey) (start : Nat)
    (part : Nat × Frame) : Prop where
  offered : ∃ now, history[part.1]? = some (now, .offer part.2)
  key_eq : key = .of part.2
  fragment : part.2.isFragment = true
  fits : part.2.offset.toNat + part.2.payload.length ≤ Frame.maxPayload
  since : start ≤ part.1

/-- Where the fragments of a group that waits after `n` events stand in the history. -/
structure Stored (r : Reassembler) (history : FragmentHistory) (n : Nat) (key : FragmentKey)
    (g : FragmentGroup) (start time : Nat) (parts : List (Nat × Frame)) : Prop where
  opened : Opened r history key start time n
  deadline : g.deadline = time + r.timeout
  fragments : parts.map Prod.snd = g.fragments
  offered : ∀ p ∈ parts, Offered history key start p
  buffered : ∀ p ∈ parts, p.1 < n ∧ r.answer? history p.1 = some .buffered
  distinct : (parts.map Prod.fst).Nodup
  incomplete : completeLength g.fragments = none

/-- A datagram that was completed at a place of a history is the content of fragments, which
are given in order with their places. All of them were accepted into one group, which was
opened in time, and the last that was offered is the current one. -/
structure Provenance (r : Reassembler) (history : FragmentHistory) (i : Nat) (g : Frame)
    (parts : List (Nat × Frame)) : Prop where
  completes : r.answer? history i = some (.complete g)
  current : ∃ now f, history[i]? = some (now, .offer f) ∧ (i, f) ∈ parts ∧
    ∃ start time, Opened r history (.of g) start time i ∧ now < time + r.timeout ∧
      ∀ p ∈ parts, Offered history (.of g) start p
  buffered : ∀ p ∈ parts, p.1 = i ∨ p.1 < i ∧ r.answer? history p.1 = some .buffered
  distinct : (parts.map Prod.fst).Nodup
  several : 2 ≤ parts.length
  run : FragmentRun 0 (parts.map Prod.snd)
  content : ∃ head ∈ (parts.map Prod.snd).head?, g = datagramOf head (parts.map Prod.snd)
  length_le : g.payload.length ≤ Frame.maxPayload
  whole : g.isFragment = false

variable {r : Reassembler} {history : FragmentHistory}

lemma Opened.succ {key : FragmentKey} {start time n : Nat} {g : FragmentGroup}
    (h : Opened r history key start time n)
    (hg : (r.after (history.take (n + 1))).groups.get? key = some g)
    (hdeadline : g.deadline = time + r.timeout) : Opened r history key start time (n + 1) where
  le := Nat.le_succ_of_le h.le
  offered := h.offered
  fresh := h.fresh
  stored := by
    intro m hm hmn
    rcases Nat.lt_or_eq_of_le hmn with hlt | rfl
    · exact h.stored m hm (Nat.le_of_lt_succ hlt)
    · exact ⟨g, hg, hdeadline⟩

/-- An event that leaves a group there leaves its fragments where they are. -/
lemma Stored.succ {key : FragmentKey} {g : FragmentGroup} {start time n : Nat}
    {parts : List (Nat × Frame)} (h : Stored r history n key g start time parts)
    (hg : (r.after (history.take (n + 1))).groups.get? key = some g) :
    Stored r history (n + 1) key g start time parts where
  opened := h.opened.succ hg h.deadline
  deadline := h.deadline
  fragments := h.fragments
  offered := h.offered
  buffered := fun p hp => ⟨Nat.lt_succ_of_lt (h.buffered p hp).1, (h.buffered p hp).2⟩
  distinct := h.distinct
  incomplete := h.incomplete

lemma insert_parts {parts : List (Nat × Frame)} {f : Frame} {fs : List Frame} (n : Nat)
    (h : insertFragment f (parts.map Prod.snd) = some fs) :
    ∃ before behind, parts = before ++ behind ∧
      fs = (before ++ (n, f) :: behind).map Prod.snd := by
  obtain ⟨xs, ys, hparts, rfl⟩ := insertFragment_eq_some h
  obtain ⟨before, behind, rfl, rfl, rfl⟩ := List.map_eq_append_iff.mp hparts
  exact ⟨before, behind, rfl, by simp⟩

section Join

variable {f : Frame} {n now : Nat} {start time : Nat} {parts before behind : List (Nat × Frame)}

lemma nodup_insert (hparts : parts = before ++ behind) (hlt : ∀ p ∈ parts, p.1 < n)
    (hdistinct : (parts.map Prod.fst).Nodup) :
    ((before ++ (n, f) :: behind).map Prod.fst).Nodup := by
  rw [List.map_append, List.map_cons, List.nodup_middle, List.nodup_cons, ← List.map_append,
    ← hparts]
  refine ⟨?_, hdistinct⟩
  intro hmem
  obtain ⟨p, hp, he⟩ := List.mem_map.mp hmem
  have := hlt p hp
  omega

lemma mem_insert (hparts : parts = before ++ behind) {p : Nat × Frame} :
    p ∈ before ++ (n, f) :: behind ↔ p = (n, f) ∨ p ∈ parts := by
  rw [hparts, List.mem_append, List.mem_cons, List.mem_append]
  exact or_left_comm

/-- The fragment that is offered next belongs to the group that it joins. -/
lemma Stored.offered_insert {g : FragmentGroup}
    (hs : Stored r history n (.of f) g start time parts)
    (hn : history[n]? = some (now, .offer f)) (hf : f.isFragment = true)
    (hfits : f.offset.toNat + f.payload.length ≤ Frame.maxPayload)
    (hparts : parts = before ++ behind) :
    ∀ p ∈ before ++ (n, f) :: behind, Offered history (.of f) start p := by
  intro p hp
  rcases (mem_insert hparts).mp hp with rfl | hp
  · exact ⟨⟨now, hn⟩, rfl, hf, hfits, hs.opened.le⟩
  · exact hs.offered p hp

end Join

/-- The group that a fragment joins waits, or it opens with that fragment. -/
lemma exists_waiting {n now : Nat} {f : Frame}
    (hstored : ∀ key g, (r.after (history.take n)).groups.get? key = some g →
      ∃ start time parts, Stored r history n key g start time parts)
    (hn : history[n]? = some (now, .offer f)) :
    ∃ start time parts,
      Stored r history n (.of f) ((r.after (history.take n)).waiting (.of f) now)
        start time parts ∧ (parts ≠ [] → now < time + r.timeout) := by
  unfold waiting
  cases hlive : (r.after (history.take n)).live? (.of f) now with
  | none =>
    refine ⟨n, now, [], ?_, fun h => absurd rfl h⟩
    constructor
    case opened =>
      exact ⟨Nat.le_refl n, ⟨f, hn, rfl⟩, hlive, fun m hm hmn => absurd hm (Nat.not_lt.mpr hmn)⟩
    case deadline => simp
    case fragments => rfl
    case offered => exact List.forall_mem_nil _
    case buffered => exact List.forall_mem_nil _
    case distinct => exact List.nodup_nil
    case incomplete => rfl
  | some g =>
    obtain ⟨hg, hnow⟩ := (live?_eq_some ..).mp hlive
    obtain ⟨start, time, parts, hs⟩ := hstored _ g hg
    refine ⟨start, time, parts, hs, fun _ => ?_⟩
    rw [← hs.deadline]
    exact hnow

/-- In every history that starts without groups, the fragments of a group that waits were
accepted since it was opened. -/
theorem exists_stored (hempty : ∀ key, r.groups.get? key = none) (n : Nat) :
    ∀ key g, (r.after (history.take n)).groups.get? key = some g →
      ∃ start time parts, Stored r history n key g start time parts := by
  induction n with
  | zero =>
    intro key g h
    change r.groups.get? key = some g at h
    rw [hempty key] at h
    cases h
  | succ n ih =>
    intro key g h
    cases hn : history[n]? with
    | none =>
      have hg := h
      rw [after_take_of_none hn] at hg
      obtain ⟨start, time, parts, hs⟩ := ih key g hg
      exact ⟨start, time, parts, hs.succ h⟩
    | some x =>
      obtain ⟨now, event⟩ := x
      have hg := h
      rw [after_take_succ hn] at hg
      rcases get?_step hg with hold | ⟨f, rfl, rfl, hanswer, hf, hfits, hinsert, hlength, hdeadline⟩
      · obtain ⟨start, time, parts, hs⟩ := ih key g hold
        exact ⟨start, time, parts, hs.succ h⟩
      · obtain ⟨start, time, parts, hs, -⟩ := exists_waiting ih hn
        rw [← hs.fragments] at hinsert
        obtain ⟨before, behind, hparts, hfs⟩ := insert_parts n hinsert
        refine ⟨start, time, before ++ (n, f) :: behind, ?_⟩
        have hgroup : g.deadline = time + r.timeout := hdeadline.trans hs.deadline
        constructor
        case opened => exact hs.opened.succ h hgroup
        case deadline => exact hgroup
        case fragments => exact hfs.symm
        case offered => exact hs.offered_insert hn hf hfits hparts
        case buffered =>
          intro p hp
          rcases (mem_insert hparts).mp hp with rfl | hp
          · exact ⟨Nat.lt_succ_self n, answer?_eq_some.mpr ⟨now, f, hn, hanswer⟩⟩
          · exact ⟨Nat.lt_succ_of_lt (hs.buffered p hp).1, (hs.buffered p hp).2⟩
        case distinct => exact nodup_insert hparts (fun p hp => (hs.buffered p hp).1) hs.distinct
        case incomplete => exact hlength

/-- A run of fragments, none of which is a whole datagram, has more than one. -/
lemma exists_cons_of_run {run : List Frame} (h : FragmentRun 0 run)
    (hf : ∀ f ∈ run, f.isFragment = true) : ∃ head tail, run = head :: tail ∧ tail ≠ [] := by
  cases h with
  | last hoffset hmore =>
    rename_i f
    have hfragment := hf f (List.mem_singleton_self f)
    have hzero : f.offset = 0 := UInt16.toNat_inj.mp hoffset
    simp [Frame.isFragment, hmore, hzero] at hfragment
  | more hoffset hmore hrest => exact ⟨_, _, rfl, hrest.ne_nil⟩

lemma get?_of_complete {i now : Nat} {f g : Frame} (hi : history[i]? = some (now, .offer f))
    (h : r.answer? history i = some (.complete g)) :
    (r.after (history.take (i + 1))).groups.get? (.of f) = none := by
  obtain ⟨now', f', hi', hanswer⟩ := answer?_eq_some.mp h
  obtain ⟨rfl, hf⟩ := Prod.mk.inj (Option.some.inj (hi.symm.trans hi'))
  obtain rfl := FragmentEvent.offer.inj hf
  rw [after_take_succ hi, step]
  have ha := (r.after (history.take i)).answers_offer f now
  generalize (r.after (history.take i)).offer f now = result at ha hanswer ⊢
  cases ha with
  | whole | tooLong | noRoom | duplicate | buffered => cases hanswer
  | complete => rw [Table.get?_erase, if_pos rfl]

/-- A fragment of a completed datagram belongs to no datagram that is completed later: the
group of the later one would have been there when the earlier one was completed. -/
lemma Provenance.ne_of_lt {i j : Nat} {g g' : Frame} {parts parts' : List (Nat × Frame)}
    (h : Provenance r history i g parts) (h' : Provenance r history j g' parts') (hij : i < j)
    {p p' : Nat × Frame} (hp : p ∈ parts) (hp' : p' ∈ parts') : p.1 ≠ p'.1 := by
  intro he
  obtain ⟨now, f, hi, hcurrent, start, time, -, -, hoffered⟩ := h.current
  obtain ⟨now', f', -, -, start', time', hopened', -, hoffered'⟩ := h'.current
  have hframe : p.2 = p'.2 := by
    obtain ⟨t, ht⟩ := (hoffered p hp).offered
    obtain ⟨t', ht'⟩ := (hoffered' p' hp').offered
    rw [he, ht'] at ht
    exact FragmentEvent.offer.inj (Prod.mk.inj (Option.some.inj ht)).2.symm
  have hkey : FragmentKey.of g' = .of f := by
    rw [(hoffered' p' hp').key_eq, ← hframe, ← (hoffered p hp).key_eq]
    exact (hoffered _ hcurrent).key_eq
  have hle : p.1 ≤ i := (h.buffered p hp).elim Nat.le_of_eq fun hlt => Nat.le_of_lt hlt.1
  have hsince := (hoffered' p' hp').since
  obtain ⟨group, hgroup, -⟩ := hopened'.stored (i + 1) (by omega) (by omega)
  rw [hkey, get?_of_complete hi h.completes] at hgroup
  cases hgroup

lemma Provenance.disjoint {i j : Nat} {g g' : Frame} {parts parts' : List (Nat × Frame)}
    (h : Provenance r history i g parts) (h' : Provenance r history j g' parts') (hij : j ≠ i) :
    ∀ p ∈ parts, ∀ p' ∈ parts', p.1 ≠ p'.1 := by
  intro p hp p' hp'
  rcases Nat.lt_or_gt_of_ne hij with hlt | hgt
  · exact (h'.ne_of_lt h hlt hp' hp).symm
  · exact h.ne_of_lt h' hgt hp hp'

/-- What is assembled from a run of offered fragments is a datagram of their key, with their
content. -/
lemma of_assemble {key : FragmentKey} {start : Nat} {used : List (Nat × Frame)}
    {rest : List Frame} {g : Frame} (hrun : FragmentRun 0 (used.map Prod.snd))
    (hoffered : ∀ p ∈ used, Offered history key start p)
    (hassemble : assemble (used.map Prod.snd ++ rest) = some g) :
    2 ≤ used.length ∧ key = .of g ∧
      (∃ head ∈ (used.map Prod.snd).head?, g = datagramOf head (used.map Prod.snd)) ∧
      g.payload.length ≤ Frame.maxPayload ∧ g.isFragment = false := by
  have hpart : ∀ f ∈ used.map Prod.snd, key = .of f ∧ f.isFragment = true ∧
      f.offset.toNat + f.payload.length ≤ Frame.maxPayload := by
    intro f hf
    obtain ⟨p, hp, rfl⟩ := List.mem_map.mp hf
    exact ⟨(hoffered p hp).key_eq, (hoffered p hp).fragment, (hoffered p hp).fits⟩
  have hlength : used.length = (used.map Prod.snd).length := (List.length_map ..).symm
  rw [hlength]
  generalize used.map Prod.snd = run at hrun hassemble hpart ⊢
  obtain ⟨head, tail, rfl, htail⟩ := exists_cons_of_run hrun fun f hf => (hpart f hf).2.1
  rw [hrun.assemble_append htail] at hassemble
  obtain rfl := Option.some.inj hassemble
  refine ⟨?_, (hpart head (List.mem_cons_self ..)).1, ⟨head, rfl, rfl⟩, ?_, rfl⟩
  · have := List.length_pos_iff.mpr htail
    rw [List.length_cons]
    omega
  · obtain ⟨f, hf, hend⟩ := hrun.exists_end
    have hfits := (hpart f hf).2.2
    change (joined (head :: tail)).length ≤ Frame.maxPayload
    omega

/-- A fragment that completes a group belongs to the run, for the group was incomplete. -/
lemma Stored.mem_run {key : FragmentKey} {g : FragmentGroup} {start time n : Nat} {f : Frame}
    {parts before behind used left : List (Nat × Frame)}
    (hs : Stored r history n key g start time parts) (hparts : parts = before ++ behind)
    (hused : before ++ (n, f) :: behind = used ++ left)
    (hrun : FragmentRun 0 (used.map Prod.snd)) : (n, f) ∈ used := by
  refine (mem_or_of_insert hused).resolve_right ?_
  rintro ⟨more, hmore⟩
  have hincomplete := hs.incomplete
  rw [← hs.fragments, hparts, hmore, List.map_append, completeLength,
    hrun.completeLengthFrom_append] at hincomplete
  cases hincomplete

/-- A completed datagram is the content of a run of fragments of the group that was completed,
and the fragment that completed it is one of them. -/
lemma exists_provenance (hempty : ∀ key, r.groups.get? key = none) {i : Nat} {g : Frame}
    (h : r.answer? history i = some (.complete g)) : ∃ parts, Provenance r history i g parts := by
  obtain ⟨now, f, hi, hanswer⟩ := answer?_eq_some.mp h
  have ha := (r.after (history.take i)).answers_offer f now
  generalize (r.after (history.take i)).offer f now = result at ha hanswer
  cases ha with
  | whole | tooLong | noRoom | duplicate | buffered => cases hanswer
  | complete hf hfits hinsert hlength hassemble =>
    obtain rfl := Offer.complete.inj hanswer
    obtain ⟨start, time, parts, hs, htime⟩ := exists_waiting (exists_stored hempty i) hi
    rw [← hs.fragments] at hinsert
    obtain ⟨before, behind, hparts, rfl⟩ := insert_parts i hinsert
    obtain ⟨run, rest, hsplit, hrun, -⟩ := completeLengthFrom_eq_some hlength
    obtain ⟨used, left, hused, rfl, rfl⟩ := List.map_eq_append_iff.mp hsplit
    have hmem : ∀ p ∈ used, p ∈ before ++ (i, f) :: behind := by
      intro p hp
      rw [hused]
      exact List.mem_append_left _ hp
    have hoffered := fun p hp => hs.offered_insert hi hf hfits hparts p (hmem p hp)
    have hcurrent : (i, f) ∈ used := hs.mem_run hparts hused hrun
    rw [hsplit] at hassemble
    obtain ⟨hseveral, hkey, hcontent, hle, hwhole⟩ := of_assemble hrun hoffered hassemble
    rw [hkey] at hs hoffered
    have hwaited : parts ≠ [] := by
      rintro rfl
      have hlen := congrArg List.length hused
      have hzero := congrArg List.length hparts
      simp only [List.length_nil, List.length_append, List.length_cons] at hlen hzero
      omega
    refine ⟨used, ?_⟩
    constructor
    case completes => exact h
    case current => exact ⟨now, f, hi, hcurrent, start, time, hs.opened, htime hwaited, hoffered⟩
    case buffered =>
      intro p hp
      rcases (mem_insert hparts).mp (hmem p hp) with rfl | hp
      · exact .inl rfl
      · exact .inr (hs.buffered p hp)
    case distinct =>
      have hnodup := nodup_insert (f := f) hparts (fun p hp => (hs.buffered p hp).1) hs.distinct
      rw [hused, List.map_append] at hnodup
      exact (List.nodup_append.mp hnodup).1
    case several => exact hseveral
    case run => exact hrun
    case content => exact hcontent
    case length_le => exact hle
    case whole => exact hwhole

/-- In every history of a new reassembler, whatever was offered and when, a datagram that is
completed is the content of two or more accepted fragments of its key: they follow each other
without gaps from offset zero, only the last of them is marked as the last, and the one that
was offered last completed the datagram, before the group that all of them joined was stale.
No fragment of it belongs to another datagram that is completed. -/
theorem complete_provenance (timeout capacity : Nat) (history : FragmentHistory) :
    let r : Reassembler := { timeout, capacity }
    ∀ i g, r.answer? history i = some (.complete g) → ∃ parts, Provenance r history i g parts ∧
      ∀ j g' parts', j ≠ i → Provenance r history j g' parts' →
        ∀ p ∈ parts, ∀ p' ∈ parts', p.1 ≠ p'.1 := by
  intro r i g h
  obtain ⟨parts, hparts⟩ := exists_provenance (fun _ => rfl) h
  exact ⟨parts, hparts, fun _ _ _ hij h' => hparts.disjoint h' hij⟩

/-- The second half arrives first and twice, then the first half. -/
theorem complete_provenance_reversed :
    let first : Frame :=
      { source := ⟨10, 0, 0, 5⟩, destination := ⟨93, 184, 216, 34⟩, protocol := .udp
        identification := 7, moreFragments := true, payload := [0, 1, 2, 3, 4, 5, 6, 7] }
    let last : Frame := { first with offset := 8, moreFragments := false, payload := [8, 9] }
    let whole : Frame := datagramOf first [first, last]
    let r : Reassembler := { timeout := 1000, capacity := 4 }
    let history : FragmentHistory :=
      [(0, .offer last), (5, .offer last), (999, .offer first)]
    r.answer? history 2 = some (.complete whole) ∧
      ∃ parts, Provenance r history 2 whole parts ∧ ∀ p ∈ parts, p.1 = 2 ∨ p.1 = 0 := by
  intro first last whole r history
  have hcomplete : r.answer? history 2 = some (.complete whole) := by decide +kernel
  obtain ⟨parts, h, -⟩ := complete_provenance 1000 4 history 2 whole hcomplete
  refine ⟨hcomplete, parts, h, fun p hp => ?_⟩
  rcases h.buffered p hp with hcurrent | ⟨hlt, hbuffered⟩
  · exact .inl hcurrent
  · have hduplicate : r.answer? history 1 = some .rejected := by decide +kernel
    have hne : p.1 ≠ 1 := by
      intro hone
      rw [hone, hduplicate] at hbuffered
      cases hbuffered
    exact .inr (by omega)

end GuestNat.Reassembler
