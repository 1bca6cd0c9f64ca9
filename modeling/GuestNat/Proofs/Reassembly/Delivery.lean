import GuestNat.Proofs.Reassembly.History
import Mathlib.Data.List.Nodup

/-!
# Reassembly in any order

Datagrams that were cut into fragments come out whole, in whatever order the fragments of
all of them arrive, with duplicates and sweeps between them (`reassembled_in_any_order`). The
invariant is that a datagram which is not yet complete has exactly those pieces stored that
have arrived, with a deadline that began with the arrival of a piece (`Tracks`).
-/
namespace GuestNat

/-- A datagram that was cut into two or more fragments, none of which is empty. -/
structure CutDatagram where
  key : FragmentKey
  pieces : List Frame
  several : 2 ≤ pieces.length
  keyed : ∀ f ∈ pieces, FragmentKey.of f = key
  nonempty : ∀ f ∈ pieces, f.payload ≠ []
  run : FragmentRun 0 pieces
  fits : (joined pieces).length ≤ Frame.maxPayload

/-- Whether a frame was offered. -/
def FragmentHistory.arrived (past : FragmentHistory) (f : Frame) : Bool :=
  .offer f ∈ past.map Prod.snd

namespace CutDatagram

/-- The datagram that was cut. -/
def whole (d : CutDatagram) : Frame := datagramOf (d.pieces.head d.run.ne_nil) d.pieces

/-- Whether an event offers a piece of the datagram. -/
def brings (d : CutDatagram) : FragmentEvent → Bool
  | .offer f => f ∈ d.pieces
  | _ => false

/-- The times at which pieces of the datagram were offered. -/
def arrivals (d : CutDatagram) (past : FragmentHistory) : List Nat :=
  (past.filter fun x => d.brings x.2).map Prod.fst

/-- Some piece was not offered yet. -/
def Incomplete (d : CutDatagram) (past : FragmentHistory) : Prop :=
  ∃ f ∈ d.pieces, past.arrived f = false

instance (d : CutDatagram) (past : FragmentHistory) : Decidable (d.Incomplete past) :=
  inferInstanceAs (Decidable (∃ f ∈ d.pieces, past.arrived f = false))

/-- The answer that a piece gets: it is a duplicate, or others are still missing, or it is
the last one that was. -/
def answer (d : CutDatagram) (past : FragmentHistory) (f : Frame) : Offer :=
  if past.arrived f then .rejected
  else if ∃ g ∈ d.pieces, g ≠ f ∧ past.arrived g = false then .buffered
  else .complete d.whole

lemma isFragment (d : CutDatagram) {f : Frame} (hf : f ∈ d.pieces) : f.isFragment = true := by
  obtain ⟨key, pieces, several, keyed, nonempty, run, fits⟩ := d
  cases run with
  | last => simp at several
  | @more _ head tail hoffset hmore hrest =>
    rcases List.mem_cons.mp hf with rfl | hf
    · simp [Frame.isFragment, hmore]
    · have hpos := List.length_pos_iff.mpr (nonempty head (List.mem_cons_self ..))
      have hle := hrest.le_offset f hf
      have hne : f.offset ≠ 0 := by
        intro hzero
        rw [hzero] at hle
        simp only [UInt16.toNat_zero] at hle
        omega
      simp [Frame.isFragment, hne]

lemma end_le (d : CutDatagram) {f : Frame} (hf : f ∈ d.pieces) :
    f.offset.toNat + f.payload.length ≤ Frame.maxPayload := by
  have h := d.run.end_le f hf
  have hfits := d.fits
  omega

lemma pairwise_offset (d : CutDatagram) : d.pieces.Pairwise (·.offset < ·.offset) :=
  d.run.pairwise_offset d.nonempty

lemma completeLength_filter (d : CutDatagram) {past : FragmentHistory} (h : d.Incomplete past) :
    completeLength (d.pieces.filter past.arrived) = none :=
  d.run.completeLengthFrom_filter d.nonempty h

lemma filter_of_complete (d : CutDatagram) {past : FragmentHistory} (h : ¬ d.Incomplete past) :
    d.pieces.filter past.arrived = d.pieces := by
  apply List.filter_eq_self.mpr
  intro f hf
  by_contra hne
  exact h ⟨f, hf, Bool.eq_false_iff.mpr hne⟩

lemma completeLength_pieces (d : CutDatagram) :
    completeLength d.pieces = some (joined d.pieces).length := by
  have h := d.run.completeLengthFrom_append []
  rwa [List.append_nil, Nat.zero_add] at h

lemma assemble_pieces (d : CutDatagram) : assemble d.pieces = some d.whole := by
  obtain ⟨key, pieces, several, keyed, nonempty, run, fits⟩ := d
  cases pieces with
  | nil => simp at several
  | cons head tail =>
    have htail : tail ≠ [] := by
      rintro rfl
      simp at several
    have h := run.assemble_append htail []
    rwa [List.append_nil] at h

end CutDatagram

section Past

variable {d : CutDatagram} {past : FragmentHistory} {now : Nat} {event : FragmentEvent} {f : Frame}

@[simp] theorem arrived_append : FragmentHistory.arrived (past ++ [(now, event)]) f =
    (past.arrived f || decide (event = .offer f)) := by
  simp only [FragmentHistory.arrived, List.map_append, List.mem_append, List.map_cons,
    List.map_nil, List.mem_singleton, Bool.decide_or, eq_comm]

lemma arrivals_append : d.arrivals (past ++ [(now, event)]) =
    d.arrivals past ++ if d.brings event then [now] else [] := by
  unfold CutDatagram.arrivals
  rw [List.filter_append, List.map_append]
  cases hb : d.brings event <;> simp [hb]

lemma arrivals_ne_nil (hf : f ∈ d.pieces) (h : past.arrived f = true) : d.arrivals past ≠ [] := by
  obtain ⟨⟨t, event⟩, hx, hevent⟩ := List.mem_map.mp (of_decide_eq_true h)
  obtain rfl : event = .offer f := hevent
  have hmem : (t, FragmentEvent.offer f) ∈ past.filter fun x => d.brings x.2 :=
    List.mem_filter.mpr ⟨hx, decide_eq_true hf⟩
  exact List.ne_nil_of_mem (List.mem_map_of_mem hmem)

lemma filter_arrived_append (now : Nat) :
    d.pieces.filter (FragmentHistory.arrived (past ++ [(now, .offer f)])) =
      d.pieces.filter fun g => past.arrived g || g = f := by
  apply List.filter_congr
  intro g _
  simp only [arrived_append, FragmentEvent.offer.injEq, @eq_comm _ f g]

lemma incomplete_append_offer (now : Nat) : d.Incomplete (past ++ [(now, .offer f)]) ↔
    ∃ g ∈ d.pieces, g ≠ f ∧ past.arrived g = false := by
  simp [CutDatagram.Incomplete, and_comm, @eq_comm _ f]

/-- Pieces that arrived are never missing again. -/
lemma CutDatagram.Incomplete.of_append (h : d.Incomplete (past ++ [(now, event)])) :
    d.Incomplete past := by
  obtain ⟨f, hf, harrived⟩ := h
  rw [arrived_append, Bool.or_eq_false_iff] at harrived
  exact ⟨f, hf, harrived.1⟩

lemma arrived_of_not_brings (hb : d.brings event = false) (hf : f ∈ d.pieces) :
    FragmentHistory.arrived (past ++ [(now, event)]) f = past.arrived f := by
  have hne : event ≠ .offer f := by
    rintro rfl
    simp [CutDatagram.brings, hf] at hb
  simp [hne]

end Past

namespace Reassembler

/-- What may happen while datagrams are delivered: a piece of one that is incomplete is
offered while its group waits, or finds room to begin a group; a frame of another key is
offered; or groups are swept before those of incomplete datagrams are stale. -/
def Admits (r : Reassembler) (ds : List CutDatagram) (past : FragmentHistory) (now : Nat) :
    FragmentEvent → Prop
  | .offer f => (∀ d ∈ ds, FragmentKey.of f ≠ d.key) ∨
      ∃ d ∈ ds, f ∈ d.pieces ∧ d.Incomplete past ∧
        (∀ t ∈ d.arrivals past, now < t + r.timeout) ∧
        (d.arrivals past = [] → (r.after past).groups.size < r.capacity)
  | .sweep => ∀ d ∈ ds, d.Incomplete past → ∀ t ∈ d.arrivals past, now < t + r.timeout
  | .clear => False

instance (r : Reassembler) (ds : List CutDatagram) (past : FragmentHistory) (now : Nat)
    (event : FragmentEvent) : Decidable (r.Admits ds past now event) :=
  match event with
  | .offer _ => inferInstanceAs (Decidable (_ ∨ _))
  | .sweep => inferInstanceAs (Decidable (∀ _ ∈ ds, _))
  | .clear => inferInstanceAs (Decidable False)

/-- A history that delivers datagrams of different keys, none of which has a group at first,
piece by piece in any order. -/
structure Delivers (r : Reassembler) (ds : List CutDatagram) (history : FragmentHistory) :
    Prop where
  keys : (ds.map (·.key)).Nodup
  fresh : ∀ d ∈ ds, r.groups.get? d.key = none
  admits : ∀ i, (h : i < history.length) →
    r.Admits ds (history.take i) history[i].1 history[i].2
  all : ∀ d ∈ ds, ¬ d.Incomplete history

/-- Exactly those pieces of an incomplete datagram are stored that have arrived. -/
structure Tracks (r : Reassembler) (d : CutDatagram) (past : FragmentHistory) : Prop where
  absent : d.arrivals past = [] ∨ ¬ d.Incomplete past → (r.after past).groups.get? d.key = none
  present : d.arrivals past ≠ [] → d.Incomplete past →
    ∃ g, (r.after past).groups.get? d.key = some g ∧
      g.fragments = d.pieces.filter past.arrived ∧ ∃ t ∈ d.arrivals past, g.deadline = t + r.timeout

section Step

variable {r : Reassembler} {d : CutDatagram} {past : FragmentHistory} {now : Nat}

lemma after_append (event : FragmentEvent) :
    r.after (past ++ [(now, event)]) = (r.after past).step now event := by
  simp [after]

/-- An event that offers no piece and leaves the group of the datagram there changes nothing. -/
lemma Tracks.of_not_brings (h : r.Tracks d past) {event : FragmentEvent}
    (hb : d.brings event = false)
    (hgroups : ((r.after past).step now event).groups.get? d.key =
      (r.after past).groups.get? d.key) : r.Tracks d (past ++ [(now, event)]) := by
  have harrivals : d.arrivals (past ++ [(now, event)]) = d.arrivals past := by
    rw [arrivals_append, hb]
    exact List.append_nil _
  have hfilter : d.pieces.filter (FragmentHistory.arrived (past ++ [(now, event)])) =
      d.pieces.filter past.arrived :=
    List.filter_congr fun f hf => arrived_of_not_brings hb hf
  have hincomplete : d.Incomplete (past ++ [(now, event)]) ↔ d.Incomplete past := by
    constructor
    · exact CutDatagram.Incomplete.of_append
    · rintro ⟨f, hf, harrived⟩
      exact ⟨f, hf, (arrived_of_not_brings hb hf).trans harrived⟩
  constructor
  · rw [harrivals, hincomplete, after_append, hgroups]
    exact h.absent
  · rw [harrivals, hincomplete, after_append, hgroups, hfilter]
    exact h.present

lemma Tracks.waiting (h : r.Tracks d past) (hincomplete : d.Incomplete past)
    (htime : ∀ t ∈ d.arrivals past, now < t + r.timeout) :
    ((r.after past).waiting d.key now).fragments = d.pieces.filter past.arrived ∧
      (∃ t ∈ d.arrivals past ++ [now],
        ((r.after past).waiting d.key now).deadline = t + r.timeout) ∧
      (d.arrivals past ≠ [] →
        (r.after past).live? d.key now = some ((r.after past).waiting d.key now)) := by
  unfold Reassembler.waiting
  by_cases harrivals : d.arrivals past = []
  · have hnone : (r.after past).live? d.key now = none := by
      cases hlive : (r.after past).live? d.key now with
      | none => rfl
      | some g =>
        have hg := ((live?_eq_some ..).mp hlive).1
        rw [h.absent (.inl harrivals)] at hg
        cases hg
    rw [hnone]
    refine ⟨?_, ⟨now, by simp, by simp⟩, fun hne => absurd harrivals hne⟩
    symm
    apply List.filter_eq_nil_iff.mpr
    intro f hf harrived
    exact arrivals_ne_nil hf harrived harrivals
  · obtain ⟨g, hg, hfragments, t, ht, hdeadline⟩ := h.present harrivals hincomplete
    have hlive : (r.after past).live? d.key now = some g := by
      rw [live?_eq_some, hdeadline]
      exact ⟨hg, htime t ht⟩
    rw [hlive]
    exact ⟨hfragments, ⟨t, List.mem_append_left _ ht, hdeadline⟩, fun _ => rfl⟩

section Offer

variable {f : Frame} (h : r.Tracks d past) (hf : f ∈ d.pieces) (hincomplete : d.Incomplete past)
  (htime : ∀ t ∈ d.arrivals past, now < t + r.timeout)
  (hroom : d.arrivals past = [] → (r.after past).groups.size < r.capacity)

include h hf hincomplete htime

lemma Tracks.insertFragment_waiting :
    insertFragment f ((r.after past).waiting (.of f) now).fragments =
      if past.arrived f then none
      else some (d.pieces.filter (FragmentHistory.arrived (past ++ [(now, .offer f)]))) := by
  obtain ⟨hfragments, -⟩ := h.waiting hincomplete htime
  rw [d.keyed f hf, hfragments, filter_arrived_append]
  exact insertFragment_filter d.pairwise_offset hf past.arrived

include hroom

lemma Tracks.size_lt (hnone : (r.after past).live? (.of f) now = none) :
    ((r.after past).dropStale (.of f) now).groups.size < (r.after past).capacity := by
  rw [d.keyed f hf] at hnone ⊢
  by_cases hnil : d.arrivals past = []
  · have hsame : (r.after past).dropStale d.key now = r.after past := by
      simp only [dropStale, h.absent (.inl hnil)]
    rw [hsame, capacity_after]
    exact hroom hnil
  · rw [(h.waiting hincomplete htime).2.2 hnil] at hnone
    cases hnone

/-- The offer of a piece has three outcomes: it is a duplicate, or it joins the group, or it
completes the datagram. -/
lemma Tracks.offer_cases :
    let fs := d.pieces.filter (FragmentHistory.arrived (past ++ [(now, .offer f)]))
    let kept := (r.after past).dropStale (.of f) now
    (past.arrived f = true ∧ (r.after past).offer f now = (kept, .rejected)) ∨
    (past.arrived f = false ∧ d.Incomplete (past ++ [(now, .offer f)]) ∧
      (r.after past).offer f now =
        ({ kept with
            groups := kept.groups.insert (.of f)
              { (r.after past).waiting (.of f) now with fragments := fs } },
          .buffered)) ∨
    (past.arrived f = false ∧ ¬ d.Incomplete (past ++ [(now, .offer f)]) ∧
      (r.after past).offer f now =
        ({ kept with groups := kept.groups.erase (.of f) }, .complete d.whole)) := by
  intro fs kept
  have hinserted := h.insertFragment_waiting hf hincomplete htime
  have hjoins : ∀ gs, insertFragment f ((r.after past).waiting (.of f) now).fragments = some gs →
      past.arrived f = false ∧
        gs = d.pieces.filter (FragmentHistory.arrived (past ++ [(now, .offer f)])) := by
    intro gs hinsert
    rw [hinserted] at hinsert
    split at hinsert
    · cases hinsert
    · next harrived =>
      exact ⟨Bool.eq_false_iff.mpr harrived, (Option.some.inj hinsert).symm⟩
  have ha := (r.after past).answers_offer f now
  generalize (r.after past).offer f now = result at ha ⊢
  cases ha with
  | whole hwhole =>
    rw [d.isFragment hf] at hwhole
    cases hwhole
  | tooLong _ hlong => exact absurd (d.end_le hf) (Nat.not_le.mpr hlong)
  | noRoom _ hnone hfull =>
    exact absurd (h.size_lt hf hincomplete htime hroom hnone) (Nat.not_lt.mpr hfull)
  | duplicate _ hnone =>
    refine .inl ⟨?_, rfl⟩
    by_contra harrived
    rw [hinserted, if_neg harrived] at hnone
    cases hnone
  | buffered _ _ hsome hlength =>
    obtain ⟨harrived, rfl⟩ := hjoins _ hsome
    refine .inr (.inl ⟨harrived, ?_, rfl⟩)
    by_contra hdone
    rw [d.filter_of_complete hdone, d.completeLength_pieces] at hlength
    cases hlength
  | complete _ _ hsome hlength hassemble =>
    obtain ⟨harrived, rfl⟩ := hjoins _ hsome
    have hdone : ¬ d.Incomplete (past ++ [(now, .offer f)]) := by
      intro hmissing
      rw [d.completeLength_filter hmissing] at hlength
      cases hlength
    rw [d.filter_of_complete hdone, d.assemble_pieces] at hassemble
    obtain rfl := Option.some.inj hassemble
    exact .inr (.inr ⟨harrived, hdone, rfl⟩)

lemma Tracks.offer : ((r.after past).offer f now).2 = d.answer past f ∧
    r.Tracks d (past ++ [(now, .offer f)]) := by
  have hkey : d.key = .of f := (d.keyed f hf).symm
  obtain ⟨hfragments, hdeadline, hlive⟩ := h.waiting hincomplete htime
  have harrivals : d.arrivals (past ++ [(now, .offer f)]) = d.arrivals past ++ [now] := by
    rw [arrivals_append]
    simp [CutDatagram.brings, hf]
  have hsome : d.arrivals (past ++ [(now, .offer f)]) ≠ [] := by simp [harrivals]
  have hafter : r.after (past ++ [(now, .offer f)]) = ((r.after past).offer f now).1 :=
    after_append _
  rw [← harrivals, hkey] at hdeadline
  have hstill : d.Incomplete (past ++ [(now, .offer f)]) ↔
      ∃ g ∈ d.pieces, g ≠ f ∧ past.arrived g = false := incomplete_append_offer now
  unfold CutDatagram.answer
  rcases h.offer_cases hf hincomplete htime hroom with ⟨harrived, hoffer⟩ |
    ⟨harrived, hmissing, hoffer⟩ | ⟨harrived, hdone, hoffer⟩
  · have hmissing : d.Incomplete (past ++ [(now, .offer f)]) := by
      obtain ⟨g, hg, hgone⟩ := hincomplete
      refine hstill.mpr ⟨g, hg, ?_, hgone⟩
      rintro rfl
      rw [harrived] at hgone
      cases hgone
    have hsame : d.pieces.filter (FragmentHistory.arrived (past ++ [(now, .offer f)])) =
        d.pieces.filter past.arrived := by
      rw [filter_arrived_append]
      apply List.filter_congr
      intro g _
      by_cases hg : g = f <;> simp [hg, harrived]
    refine ⟨by rw [hoffer, if_pos harrived], ?_, fun _ _ => ?_⟩
    · exact fun habsent => absurd habsent (by simp [hsome, hmissing])
    · have hg := hlive (arrivals_ne_nil hf harrived)
      rw [hkey] at hg hfragments
      rw [hafter, hoffer, hkey, hsame]
      exact ⟨_, hg, hfragments, hdeadline⟩
  · refine ⟨by rw [hoffer, if_neg (by simp [harrived]), if_pos (hstill.mp hmissing)], ?_,
      fun _ _ => ?_⟩
    · exact fun habsent => absurd habsent (by simp [hsome, hmissing])
    · rw [hafter, hoffer, hkey]
      refine ⟨{ (r.after past).waiting (.of f) now with fragments := _ }, ?_, rfl, hdeadline⟩
      rw [Table.get?_insert, if_pos rfl]
  · refine ⟨by rw [hoffer, if_neg (by simp [harrived]), if_neg (mt hstill.mpr hdone)],
      ?_, ?_⟩
    · intro _
      rw [hafter, hoffer, hkey, Table.get?_erase, if_pos rfl]
    · exact fun _ hmissing => absurd hmissing hdone

end Offer

end Step

namespace Delivers

variable {r : Reassembler} {ds : List CutDatagram} {history : FragmentHistory} {d : CutDatagram}

lemma admits_of_getElem? (h : r.Delivers ds history) {i now : Nat} {event : FragmentEvent}
    (hi : history[i]? = some (now, event)) : r.Admits ds (history.take i) now event := by
  obtain ⟨hlt, hget⟩ := List.getElem?_eq_some_iff.mp hi
  have hadmits := h.admits i hlt
  rwa [hget] at hadmits

/-- A frame with the key of a datagram is offered only as a piece of it, in time. -/
lemma offer_admitted (h : r.Delivers ds history) (hd : d ∈ ds) {i now : Nat} {f : Frame}
    (hi : history[i]? = some (now, .offer f)) (hkey : FragmentKey.of f = d.key) :
    f ∈ d.pieces ∧ d.Incomplete (history.take i) ∧
      (∀ t ∈ d.arrivals (history.take i), now < t + r.timeout) ∧
      (d.arrivals (history.take i) = [] →
        (r.after (history.take i)).groups.size < r.capacity) := by
  rcases h.admits_of_getElem? hi with hforeign | ⟨d', hd', hf, hrest⟩
  · exact absurd hkey (hforeign d hd)
  · obtain rfl : d' = d :=
      List.inj_on_of_nodup_map h.keys hd' hd ((d'.keyed f hf).symm.trans hkey)
    exact ⟨hf, hrest⟩

lemma tracks (h : r.Delivers ds history) (hd : d ∈ ds) (n : Nat) :
    r.Tracks d (history.take n) := by
  induction n with
  | zero => exact ⟨fun _ => h.fresh d hd, fun hne => absurd rfl hne⟩
  | succ n ih =>
    cases hn : history[n]? with
    | none =>
      rw [List.take_add_one, hn, Option.toList_none, List.append_nil]
      exact ih
    | some x =>
      obtain ⟨now, event⟩ := x
      rw [List.take_add_one, hn, Option.toList_some]
      have hadmits := h.admits_of_getElem? hn
      cases event with
      | offer f =>
        by_cases hkey : FragmentKey.of f = d.key
        · obtain ⟨hf, hincomplete, htime, hroom⟩ := h.offer_admitted hd hn hkey
          exact (ih.offer hf hincomplete htime hroom).2
        · have hb : d.brings (.offer f) = false := decide_eq_false fun hf => hkey (d.keyed f hf)
          exact ih.of_not_brings hb (get?_offer_of_ne _ f now (Ne.symm hkey))
      | sweep =>
        refine ih.of_not_brings rfl ?_
        simp only [step, sweep, Table.get?_filter]
        cases hg : (r.after (history.take n)).groups.get? d.key with
        | none => rfl
        | some g =>
          -- The group waits, so the datagram has begun and is not complete.
          have hbegun : ¬ (d.arrivals (history.take n) = [] ∨ ¬ d.Incomplete (history.take n)) := by
            intro habsent
            rw [ih.absent habsent] at hg
            cases hg
          rw [not_or, Classical.not_not] at hbegun
          obtain ⟨g', hg', -, t, ht, hdeadline⟩ := ih.present hbegun.1 hbegun.2
          obtain rfl := Option.some.inj (hg.symm.trans hg')
          have hnow := hadmits d hd hbegun.2 t ht
          rw [Option.filter_some, if_pos (by rw [hdeadline]; exact decide_eq_true hnow)]
      | clear => exact hadmits.elim

lemma incomplete_take {m n : Nat} (hmn : m ≤ n) (h : d.Incomplete (history.take n)) :
    d.Incomplete (history.take m) := by
  induction hmn with
  | refl => exact h
  | @step n _ ih =>
    apply ih
    rw [List.take_add_one] at h
    cases hn : history[n]? with
    | none => simpa [hn] using h
    | some x =>
      rw [hn, Option.toList_some] at h
      exact h.of_append

lemma exists_completing (hall : ¬ d.Incomplete history) :
    ∃ i, d.Incomplete (history.take i) ∧ ¬ d.Incomplete (history.take (i + 1)) := by
  have hstart : d.Incomplete (history.take 0) := by
    obtain ⟨f, hf⟩ := List.exists_mem_of_ne_nil _ d.run.ne_nil
    exact ⟨f, hf, rfl⟩
  by_contra hnone
  have hnever : ∀ i, d.Incomplete (history.take i) := by
    intro i
    induction i with
    | zero => exact hstart
    | succ i ih =>
      by_contra hdone
      exact hnone ⟨i, ih, hdone⟩
  have hend := hnever history.length
  rw [List.take_length] at hend
  exact hall hend

/-- The event that completes a datagram offers the last piece that was missing. -/
lemma offered_of_completing {i : Nat} (hbefore : d.Incomplete (history.take i))
    (hafter : ¬ d.Incomplete (history.take (i + 1))) :
    ∃ now f, history[i]? = some (now, .offer f) ∧ f ∈ d.pieces ∧
      d.answer (history.take i) f = .complete d.whole := by
  cases hi : history[i]? with
  | none =>
    rw [List.take_add_one, hi, Option.toList_none, List.append_nil] at hafter
    exact absurd hbefore hafter
  | some x =>
    obtain ⟨now, event⟩ := x
    rw [List.take_add_one, hi, Option.toList_some] at hafter
    obtain ⟨f, hf, hmissing⟩ := hbefore
    have harrived : FragmentHistory.arrived (history.take i ++ [(now, event)]) f = true := by
      by_contra hne
      exact hafter ⟨f, hf, Bool.eq_false_iff.mpr hne⟩
    rw [arrived_append, hmissing, Bool.false_or, decide_eq_true_eq] at harrived
    subst harrived
    rw [incomplete_append_offer] at hafter
    refine ⟨now, f, rfl, hf, ?_⟩
    rw [CutDatagram.answer, if_neg (by simp [hmissing]), if_neg hafter]

/-- Only an event after which nothing is missing completes a datagram. -/
lemma complete_of_answer {i now : Nat} {f g : Frame} (hi : history[i]? = some (now, .offer f))
    (h : d.answer (history.take i) f = .complete g) : ¬ d.Incomplete (history.take (i + 1)) := by
  rw [List.take_add_one, hi, Option.toList_some, incomplete_append_offer]
  intro hmissing
  rw [CutDatagram.answer, if_pos hmissing] at h
  split at h <;> cases h

end Delivers

/-- While datagrams with different keys, each cut into two or more fragments, arrive piece by
piece in any order, with duplicates, sweeps and frames of other keys between them, every offer
of a piece is answered as it should be: a duplicate is rejected, and a piece is buffered
until the last one that was missing completes the datagram. So each datagram comes out exactly
once, as it was before it was cut, and it leaves no group behind. -/
theorem reassembled_in_any_order {r : Reassembler} {ds : List CutDatagram}
    {history : FragmentHistory} (h : r.Delivers ds history) :
    ∀ d ∈ ds,
      (∀ i now f, history[i]? = some (now, .offer f) → f ∈ d.pieces →
        r.answer? history i = some (d.answer (history.take i) f)) ∧
      (∃ i, r.answer? history i = some (.complete d.whole) ∧
        (∃ now f, history[i]? = some (now, .offer f) ∧ f ∈ d.pieces) ∧
        ∀ j now f g, history[j]? = some (now, .offer f) → FragmentKey.of f = d.key →
          r.answer? history j = some (.complete g) → j = i) ∧
      (r.after history).groups.get? d.key = none := by
  intro d hd
  have hanswer : ∀ i now f, history[i]? = some (now, .offer f) → f ∈ d.pieces →
      r.answer? history i = some (d.answer (history.take i) f) := by
    intro i now f hi hf
    obtain ⟨-, hincomplete, htime, hroom⟩ := h.offer_admitted hd hi (d.keyed f hf)
    have hoffer := ((h.tracks hd i).offer hf hincomplete htime hroom).1
    exact answer?_eq_some.mpr ⟨now, f, hi, hoffer⟩
  refine ⟨hanswer, ?_, ?_⟩
  · obtain ⟨i, hbefore, hafter⟩ := Delivers.exists_completing (h.all d hd)
    obtain ⟨now, f, hi, hf, hcomplete⟩ := Delivers.offered_of_completing hbefore hafter
    refine ⟨i, by rw [hanswer i now f hi hf, hcomplete], ⟨now, f, hi, hf⟩, ?_⟩
    intro j now' f' g hj hkey hg
    obtain ⟨hf', hbefore', -, -⟩ := h.offer_admitted hd hj hkey
    rw [hanswer j now' f' hj hf', Option.some.injEq] at hg
    have hafter' := Delivers.complete_of_answer hj hg
    rcases Nat.lt_trichotomy i j with hlt | heq | hgt
    · exact absurd (Delivers.incomplete_take hlt hbefore') hafter
    · exact heq.symm
    · exact absurd (Delivers.incomplete_take hgt hbefore) hafter'
  · have htracks := h.tracks hd history.length
    rw [List.take_length] at htracks
    exact htracks.absent (.inr (h.all d hd))

/-- The pieces of two datagrams arrive in reverse order and interleaved, one of them twice, with
a sweep between them. -/
theorem reassembled_in_any_order_interleaved :
    let first (id : UInt16) : Frame :=
      { source := ⟨10, 0, 0, 5⟩, destination := ⟨93, 184, 216, 34⟩, protocol := .udp
        identification := id, moreFragments := true, payload := [0, 1, 2, 3, 4, 5, 6, 7] }
    let last (id : UInt16) : Frame :=
      { first id with offset := 8, moreFragments := false, payload := [8, 9] }
    let d (id : UInt16) : CutDatagram :=
      { key := .of (first id), pieces := [first id, last id], several := Nat.le_refl 2
        keyed := List.forall_mem_cons.mpr ⟨rfl, List.forall_mem_singleton.mpr rfl⟩
        nonempty := List.forall_mem_cons.mpr
          ⟨List.cons_ne_nil _ _, List.forall_mem_singleton.mpr (List.cons_ne_nil _ _)⟩
        run := .more rfl rfl (.last rfl rfl)
        fits := Nat.le_of_ble_eq_true rfl }
    let r : Reassembler := { timeout := 1000, capacity := 2 }
    let history : FragmentHistory :=
      [(0, .offer (last 1)), (10, .offer (last 2)), (20, .offer (last 1)), (900, .sweep),
        (990, .offer (first 1)), (995, .offer (first 2))]
    r.Delivers [d 1, d 2] history ∧
      r.answer? history 2 = some .rejected ∧ r.answer? history 4 = some (.complete (d 1).whole) ∧
      (r.after history).groups.get? (d 2).key = none := by
  intro first last d r history
  have h : r.Delivers [d 1, d 2] history :=
    { keys := by decide
      fresh := fun _ _ => rfl
      admits := by decide +kernel
      all := by decide +kernel }
  obtain ⟨hanswer, -, -⟩ := reassembled_in_any_order h (d 1) (by simp)
  obtain ⟨-, -, hend⟩ := reassembled_in_any_order h (d 2) (by simp)
  refine ⟨h, ?_, ?_, hend⟩
  · rw [hanswer 2 20 (last 1) rfl (by simp [d])]
    rfl
  · rw [hanswer 4 990 (first 1) rfl (by simp [d])]
    rfl

end Reassembler

end GuestNat
