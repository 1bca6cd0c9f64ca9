import GuestNat.Proofs.Link.Observation

/-!
# How a link closes

Without resets, a side ends by acknowledging the last FIN of the other side, and the link is
closed when both have ended. There is one other way to end, which the number comparison
leaves open: a side whose FIN was acknowledged ends by acknowledging the number one, as long
as the other side has sent no FIN, because a FIN that was never seen is noted as zero.
-/
namespace GuestNat

/-- No reset was seen. -/
def ResetFree (seen : Trace) : Prop := ∀ o ∈ seen, o.isReset = false

instance (seen : Trace) : Decidable (ResetFree seen) :=
  inferInstanceAs (Decidable (∀ o ∈ seen, o.isReset = false))

/-- The last FIN of a side. -/
def lastFin? (seen : Trace) (side : Side) : Option Observation :=
  (seen.filter fun o => o.isFin && o.side == side).getLast?

/-- An observation acknowledges the last FIN that the other side has sent before. -/
def Acknowledges (past : Trace) (o : Observation) : Prop :=
  o.segment.flags.ack = true ∧
    ∃ f, lastFin? past o.side.peer = some f ∧ o.segment.acknowledgment = f.segment.sequence + 1

/-- A side has acknowledged the FIN of the other side. -/
def HasAcknowledged (seen : Trace) (side : Side) : Prop :=
  Sometime (fun past o => o.side = side ∧ Acknowledges past o) seen

/-- A side has acknowledged the number one while the other side, which had acknowledged its
FIN, had sent no FIN itself. -/
def HasPresumed (seen : Trace) (side : Side) : Prop :=
  Sometime (fun past o => o.side = side ∧ o.segment.flags.ack = true ∧
    o.segment.acknowledgment = 1 ∧ lastFin? past side.peer = none ∧
    HasAcknowledged past side.peer) seen

variable {seen : Trace} {o : Observation} {x : Side}

theorem resetFree_concat : ResetFree (seen ++ [o]) ↔ ResetFree seen ∧ o.isReset = false := by
  rw [ResetFree, ResetFree, List.forall_mem_append, List.forall_mem_singleton]

theorem lastFin?_concat : lastFin? (seen ++ [o]) x =
    if o.side = x ∧ o.isFin then some o else lastFin? seen x := by
  rw [lastFin?, List.filter_append]
  split_ifs with h
  · simp [h.1, h.2]
  · rw [List.filter_cons_of_neg (by simpa [and_comm] using h), List.filter_nil, List.append_nil,
      lastFin?]

theorem of_lastFin? (h : lastFin? seen x = some o) : o ∈ seen ∧ o.isFin = true ∧ o.side = x := by
  have hmem := List.mem_of_getLast? h
  simpa using hmem

theorem lastFin?_eq_none : lastFin? seen x = none ↔ ∀ o ∈ seen, o.isFin = true → o.side ≠ x := by
  simp [lastFin?]

theorem lastFin?_ne_none_of_take {n : Nat} (h : lastFin? (seen.take n) x ≠ none) :
    lastFin? seen x ≠ none := by
  rw [ne_eq, lastFin?_eq_none] at h ⊢
  exact fun hnone => h fun o ho => hnone o (List.mem_of_mem_take ho)

theorem HasAcknowledged.lastFin?_ne_none (h : HasAcknowledged seen x) :
    lastFin? seen x.peer ≠ none := by
  obtain ⟨i, o, -, rfl, -, f, hf, -⟩ := h
  refine lastFin?_ne_none_of_take (n := i) ?_
  simp [hf]

theorem HasPresumed.hasAcknowledged (h : HasPresumed seen x) : HasAcknowledged seen x.peer := by
  obtain ⟨i, o, hi, rfl, -, -, -, hacknowledged⟩ := h
  rw [← List.take_append_drop i seen]
  exact hacknowledged.append _

theorem HasPresumed.lastFin?_ne_none (h : HasPresumed seen x) : lastFin? seen x ≠ none := by
  simpa using h.hasAcknowledged.lastFin?_ne_none

theorem hasAcknowledged_concat : HasAcknowledged (seen ++ [o]) x ↔
    HasAcknowledged seen x ∨ o.side = x ∧ Acknowledges seen o := sometime_concat

theorem hasPresumed_concat : HasPresumed (seen ++ [o]) x ↔ HasPresumed seen x ∨
    o.side = x ∧ o.segment.flags.ack = true ∧ o.segment.acknowledgment = 1 ∧
      lastFin? seen x.peer = none ∧ HasAcknowledged seen x.peer := sometime_concat

namespace LinkState

theorem fin_after (h : ResetFree seen) :
    (after seen).fin x = ((lastFin? seen x).map (·.segment.sequence)).getD 0 := by
  induction seen using List.reverseRecOn with
  | nil => cases x <;> rfl
  | append_singleton seen o ih =>
    rw [resetFree_concat] at h
    rw [after_concat, fin_see h.2, ih h.1, lastFin?_concat]
    split_ifs <;> rfl

/-- A side has begun to close once it has sent a FIN or has ended. -/
theorem finWait1_le_after (h : ResetFree seen) : .finWait1 ≤ (after seen).phase x ↔
    lastFin? seen x ≠ none ∨ (after seen).phase x = .lastAck := by
  induction seen using List.reverseRecOn with
  | nil => cases x <;> decide
  | append_singleton seen o ih =>
    rw [resetFree_concat] at h
    rw [after_concat, finWait1_le_phase_see h.2, phase_see_eq_lastAck h.2, ih h.1, lastFin?_concat]
    split_ifs with ho
    · simp [ho.1, ho.2]
    · rw [and_or_left, or_iff_right ho, or_assoc]

/-- The acknowledgments that count are those of the last FIN, and those of the number one by
which a FIN is presumed. -/
lemma answers_after (h : ResetFree seen) : (after seen).Answers o.side o.segment ↔
    Acknowledges seen o ∨ o.segment.flags.ack = true ∧ o.segment.acknowledgment = 1 ∧
      lastFin? seen o.side.peer = none ∧ (after seen).phase o.side.peer = .lastAck := by
  rw [Answers, Acknowledges, finWait1_le_after h, fin_after h]
  cases hlast : lastFin? seen o.side.peer with
  | none => simp [and_comm]
  | some f => simp

/-- A side ends by acknowledging the FIN of the other side, or by presuming it. -/
theorem phase_after_eq_lastAck (h : ResetFree seen) :
    (after seen).phase x = .lastAck ↔ HasAcknowledged seen x ∨ HasPresumed seen x := by
  induction seen using List.reverseRecOn generalizing x with
  | nil =>
    simp only [HasAcknowledged, HasPresumed, not_sometime_nil, or_self, iff_false]
    cases x <;> decide
  | append_singleton seen o ih =>
    rw [resetFree_concat] at h
    have hpeer : lastFin? seen o.side.peer = none →
        ((after seen).phase o.side.peer = .lastAck ↔ HasAcknowledged seen o.side.peer) := by
      intro hnone
      rw [ih h.1]
      exact or_iff_left fun hpresumed => hpresumed.lastFin?_ne_none hnone
    have hcounts : (after seen).Answers o.side o.segment ↔ Acknowledges seen o ∨
        o.segment.flags.ack = true ∧ o.segment.acknowledgment = 1 ∧
          lastFin? seen o.side.peer = none ∧ HasAcknowledged seen o.side.peer := by
      rw [answers_after h.1]
      exact or_congr_right (and_congr_right fun _ => and_congr_right fun _ =>
        and_congr_right hpeer)
    rw [after_concat, phase_see_eq_lastAck h.2, ih h.1, hcounts, hasAcknowledged_concat,
      hasPresumed_concat]
    by_cases hx : o.side = x
    · subst hx
      simp only [true_and]
      exact or_or_or_comm ..
    · simp only [hx, false_and, or_false]

/-- Only a reset takes a side to the phase of a reset. -/
theorem phase_after_ne_closed (h : ResetFree seen) : (after seen).phase x ≠ .closed := by
  induction seen using List.reverseRecOn with
  | nil => cases x <;> decide
  | append_singleton seen o ih =>
    rw [resetFree_concat] at h
    rw [after_concat]
    exact fun hclosed => ih h.1 (phase_eq_closed_of_see h.2 hclosed)

/-- A link whose sides have both ended is finished. -/
theorem finished_after (h : ∀ x, (after seen).phase x = .lastAck) :
    (after seen).finished = true := by
  induction seen using List.reverseRecOn with
  | nil => exact absurd (h .host) (by decide)
  | append_singleton seen o ih =>
    rw [after_concat] at h ⊢
    exact finished_see.mpr (.inr (.inr (.inr h)))

/-- Without resets a link is closed when both sides have ended. -/
theorem stage_after_eq_closed (h : ResetFree seen) :
    (after seen).stage = .closed ↔ ∀ x, (after seen).phase x = .lastAck := by
  rw [stage_eq_closed_iff]
  exact or_iff_right fun ⟨_, x, hx⟩ => phase_after_ne_closed h hx

/-- Without resets, a link is closed exactly when each side has acknowledged the last FIN that
the other side had sent, or one side has presumed the FIN of the other side. -/
theorem closed_iff_acknowledged_or_presumed (h : ResetFree seen) :
    (after seen).stage = .closed ↔
      (∀ x, HasAcknowledged seen x) ∨ ∃ x, HasPresumed seen x := by
  rw [stage_after_eq_closed h]
  constructor
  · intro hlast
    by_cases hpresumed : ∃ x, HasPresumed seen x
    · exact .inr hpresumed
    · refine .inl fun x => ?_
      exact ((phase_after_eq_lastAck h).mp (hlast x)).resolve_right fun hx => hpresumed ⟨x, hx⟩
  · rintro (hacknowledged | ⟨x, hpresumed⟩) y
    · exact (phase_after_eq_lastAck h).mpr (.inl (hacknowledged y))
    · rw [phase_after_eq_lastAck h]
      rcases y.eq_or_eq_peer x with rfl | rfl
      · exact .inr hpresumed
      · exact .inl hpresumed.hasAcknowledged

/-- The guest closes first and the host acknowledges its FIN but sends none. As the host
started its numbers at zero, the guest, which has received nothing, goes on to acknowledge
one: that is taken for the acknowledgment of a FIN of the host. -/
theorem closed_without_host_fin :
    let seen : Trace :=
      [.bare .guest { syn := true } 100 0,
        .bare .host { syn := true, ack := true } 0 101,
        .bare .guest { ack := true } 101 1,
        .bare .guest { fin := true, ack := true } 101 1,
        .bare .host { ack := true } 1 102,
        .bare .guest { ack := true } 102 1]
    ResetFree seen ∧ (after seen).stage = .closed ∧
      ∀ o ∈ seen, o.side = .host → o.isFin = false := by
  decide

/-- In the same way the host presumes a FIN of the guest. -/
theorem closed_iff_acknowledged_or_presumed_host :
    let seen : Trace :=
      [.bare .host { fin := true, ack := true } 4294967295 0,
        .bare .guest { ack := true } 100 0,
        .bare .host { ack := true } 0 1]
    ResetFree seen ∧ (after seen).stage = .closed ∧ HasPresumed seen .host := by
  intro seen
  have hfree : ResetFree seen := by decide
  have hclosed : (after seen).stage = .closed := by decide
  refine ⟨hfree, hclosed, ?_⟩
  rcases (closed_iff_acknowledged_or_presumed hfree).mp hclosed with
    hacknowledged | ⟨_ | _, hpresumed⟩
  · exact absurd (hacknowledged .host).lastFin?_ne_none (by decide)
  · exact absurd hpresumed.lastFin?_ne_none (by decide)
  · exact hpresumed

/-- A close in which each side acknowledges the FIN of the other side after that was sent,
and the FINs of a side all have the same number. They may be repeated and may carry the
acknowledgments, the sides may close in any order or at once, and anything but a reset may
come in between. Nothing is asked of the payloads. -/
structure OrderlyClose (seen : Trace) (number : Side → UInt32) : Prop where
  resetFree : ResetFree seen
  numbers : ∀ o ∈ seen, o.isFin = true → o.segment.sequence = number o.side
  acknowledged : ∀ x, Sometime (fun past o => o.side = x ∧ o.segment.flags.ack = true ∧
    o.segment.acknowledgment = number x.peer + 1 ∧
    ∃ f ∈ past, f.isFin = true ∧ f.side = x.peer) seen

lemma OrderlyClose.hasAcknowledged {number : Side → UInt32} (h : OrderlyClose seen number)
    (x : Side) : HasAcknowledged seen x := by
  obtain ⟨i, o, hi, rfl, hack, hnumber, f, hf, hfin, hside⟩ := h.acknowledged x
  refine ⟨i, o, hi, rfl, hack, ?_⟩
  cases hlast : lastFin? (seen.take i) o.side.peer with
  | none => exact absurd hside (lastFin?_eq_none.mp hlast f hf hfin)
  | some g =>
    obtain ⟨hg, hgfin, hgside⟩ := of_lastFin? hlast
    refine ⟨g, rfl, ?_⟩
    rw [hnumber, h.numbers g (List.mem_of_mem_take hg) hgfin, hgside]

/-- An orderly close always completes: both sides end, and the link is finished and closed. -/
theorem closed_of_orderlyClose {number : Side → UInt32} (h : OrderlyClose seen number) :
    (after seen).host = .lastAck ∧ (after seen).guest = .lastAck ∧
      (after seen).finished = true ∧ (after seen).stage = .closed := by
  have hlast : ∀ x, (after seen).phase x = .lastAck := fun x =>
    (phase_after_eq_lastAck h.resetFree).mpr (.inl (h.hasAcknowledged x))
  have hclosed := (stage_after_eq_closed h.resetFree).mpr hlast
  exact ⟨hlast .host, hlast .guest, finished_after hlast, hclosed⟩

/-- Both sides close at once, the guest with the last number there is. Its FIN is repeated
and carries the acknowledgment of the FIN of the host. -/
theorem closed_of_orderlyClose_simultaneous :
    let seen : Trace :=
      [.bare .guest { fin := true, ack := true } 4294967295 7000,
        .bare .host { fin := true, ack := true } 7000 4294967295,
        .bare .guest { fin := true, ack := true } 4294967295 7001,
        .bare .host { ack := true } 7001 0]
    let number : Side → UInt32
      | .guest => 4294967295
      | .host => 7000
    OrderlyClose seen number ∧ (after seen).stage = .closed := by
  intro seen number
  have h : OrderlyClose seen number := by
    refine ⟨by decide, by decide, fun x => ?_⟩
    cases x with
    | guest => exact ⟨2, _, rfl, by decide⟩
    | host => exact ⟨3, _, rfl, by decide⟩
  exact ⟨h, (closed_of_orderlyClose h).2.2.2⟩

end LinkState

end GuestNat
