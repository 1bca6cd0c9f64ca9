import GuestNat.Proofs.Link.Observation

/-!
# The stage of a link, read off its trace

As long as no side has closed or reset, a link is in one of three states: requested by the
guest, accepted by the host, or confirmed by the guest after that. The first FIN or reset
ends this for good.
-/
namespace GuestNat

/-- Neither a reset nor a FIN was seen. -/
def Quiet (seen : Trace) : Prop := ∀ o ∈ seen, o.isReset = false ∧ o.isFin = false

/-- The host has accepted the connection. -/
def Accepted (seen : Trace) : Prop := ∃ o ∈ seen, o.side = .host ∧ o.segment.flags.accepts = true

/-- The guest has acknowledged, by no request, after the host accepted the connection. -/
def Confirmed (seen : Trace) : Prop :=
  Sometime (fun past o => o.side = .guest ∧ o.segment.flags.ack = true ∧
    o.segment.flags.syn = false ∧ Accepted past) seen

instance (seen : Trace) : Decidable (Quiet seen) :=
  inferInstanceAs (Decidable (∀ o ∈ seen, o.isReset = false ∧ o.isFin = false))

theorem quiet_concat {seen : Trace} {o : Observation} :
    Quiet (seen ++ [o]) ↔ Quiet seen ∧ o.isReset = false ∧ o.isFin = false := by
  rw [Quiet, Quiet, List.forall_mem_append, List.forall_mem_singleton]

theorem Quiet.of_append {seen later : Trace} (h : Quiet (seen ++ later)) : Quiet seen :=
  fun o ho => h o (List.mem_append_left _ ho)

theorem accepted_concat {seen : Trace} {o : Observation} : Accepted (seen ++ [o]) ↔
    Accepted seen ∨ o.side = .host ∧ o.segment.flags.accepts = true := by
  simp [Accepted, or_and_right, exists_or]

theorem Confirmed.accepted {seen : Trace} (h : Confirmed seen) : Accepted seen := by
  obtain ⟨i, o, -, -, -, -, p, hp, haccepts⟩ := h
  exact ⟨p, List.mem_of_mem_take hp, haccepts⟩

namespace LinkState

/-- The states of a link whose sides have neither closed nor reset. -/
inductive Greets (seen : Trace) : LinkState → Prop
  | requested (hnone : ¬ Accepted seen) : Greets seen {}
  | accepted (haccepted : Accepted seen) (hnone : ¬ Confirmed seen) :
      Greets seen { host := .established }
  | confirmed (hconfirmed : Confirmed seen) :
      Greets seen { host := .established, guest := .established, opening := false }

/-- A side has closed or reset: the handshake is over, and the state shows that it is. -/
structure Ended (s : LinkState) : Prop where
  opening : s.opening = false
  closes : s.finished = true ∨ ∃ x, .finWait1 ≤ s.phase x

variable {s : LinkState} {seen : Trace} {o : Observation}

lemma observeHandshake_requested (side : Side) (flags : Flags) :
    ({} : LinkState).observeHandshake side flags =
      if side = .host ∧ flags.accepts = true then { host := .established } else {} := by
  cases side <;> cases haccepts : flags.accepts <;> simp +decide [observeHandshake, haccepts]

lemma observeHandshake_accepted (side : Side) (flags : Flags) :
    ({ host := .established } : LinkState).observeHandshake side flags =
      if side = .guest ∧ flags.ack = true ∧ flags.syn = false then
        { host := .established, guest := .established, opening := false }
      else { host := .established } := by
  cases side <;> cases hack : flags.ack <;> cases hsyn : flags.syn <;>
    simp +decide [observeHandshake, hack, hsyn]

lemma Greets.phase_lt (h : Greets seen s) (x : Side) : ¬ .finWait1 ≤ s.phase x := by
  cases h <;> cases x <;> decide

lemma Greets.see (h : Greets seen s) (hreset : o.isReset = false) (hfin : o.isFin = false) :
    Greets (seen ++ [o]) (s.see o) := by
  rw [see_of_quiet hreset hfin (h.phase_lt _)]
  cases h with
  | requested hnone =>
    rw [observeHandshake_requested]
    split_ifs with haccepts
    · refine .accepted (accepted_concat.mpr (.inr haccepts)) ?_
      intro hconfirmed
      rcases sometime_concat.mp hconfirmed with hbefore | ⟨-, -, -, hbefore⟩
      · exact hnone (Confirmed.accepted hbefore)
      · exact hnone hbefore
    · refine .requested ?_
      rw [accepted_concat, not_or]
      exact ⟨hnone, haccepts⟩
  | accepted haccepted hnone =>
    rw [observeHandshake_accepted]
    split_ifs with hconfirms
    · exact .confirmed (sometime_concat.mpr
        (.inr ⟨hconfirms.1, hconfirms.2.1, hconfirms.2.2, haccepted⟩))
    · refine .accepted (accepted_concat.mpr (.inl haccepted)) ?_
      intro hconfirmed
      rcases sometime_concat.mp hconfirmed with hbefore | ⟨hguest, hack, hsyn, -⟩
      · exact hnone hbefore
      · exact hconfirms ⟨hguest, hack, hsyn⟩
  | confirmed hconfirmed =>
    rw [observeHandshake_of_not_opening _ _ _ rfl]
    exact .confirmed (sometime_concat.mpr (.inl hconfirmed))

theorem greets_after (h : Quiet seen) : Greets seen (after seen) := by
  induction seen using List.reverseRecOn with
  | nil => exact .requested (by simp [Accepted])
  | append_singleton seen o ih =>
    rw [quiet_concat] at h
    rw [after_concat]
    exact (ih h.1).see h.2.1 h.2.2

/-- The first FIN or reset ends the handshake. -/
lemma ended_see_of_not_quiet (h : o.isReset = true ∨ o.isFin = true) : Ended (s.see o) where
  opening := by
    rw [← Bool.not_eq_true]
    intro hopening
    obtain ⟨-, hreset, hfin⟩ := of_opening_see hopening
    simp [hreset, hfin] at h
  closes := by
    cases hreset : o.isReset with
    | true => exact .inl (finished_see.mpr (.inr (.inl hreset)))
    | false =>
      have hfin : o.isFin = true := h.resolve_left (by simp [hreset])
      exact .inr ⟨o.side, (finWait1_le_phase_see hreset).mpr (.inr ⟨rfl, .inl hfin⟩)⟩

lemma Ended.see (h : Ended s) : Ended (s.see o) where
  opening := by
    rw [← Bool.not_eq_true]
    intro hopening
    have hbefore := (of_opening_see hopening).1
    rw [h.opening] at hbefore
    cases hbefore
  closes := by
    rcases h.closes with hfinished | ⟨x, hx⟩
    · exact .inl (finished_see.mpr (.inl hfinished))
    · cases hreset : o.isReset with
      | true => exact .inl (finished_see.mpr (.inr (.inl hreset)))
      | false => exact .inr ⟨x, (finWait1_le_phase_see hreset).mpr (.inl hx)⟩

theorem ended_after (h : ¬ Quiet seen) : Ended (after seen) := by
  induction seen using List.reverseRecOn with
  | nil => exact absurd (by simp [Quiet]) h
  | append_singleton seen o ih =>
    rw [after_concat]
    by_cases hbefore : Quiet seen
    · refine ended_see_of_not_quiet ?_
      rw [quiet_concat, not_and, not_and_or, Bool.not_eq_false, Bool.not_eq_false] at h
      exact h hbefore
    · exact (ih hbefore).see

lemma Ended.stage (h : Ended s) : s.stage = .closing ∨ s.stage = .closed := by
  have hcloses := h.closes
  rw [s.phase_exists (P := (.finWait1 ≤ ·))] at hcloses
  unfold LinkState.stage
  split_ifs
  · exact .inr rfl
  · exact .inl rfl

/-- What a trace says of the stage, and of whether the handshake can still complete. -/
lemma stage_cases (seen : Trace) :
    Quiet seen ∧ ¬ Confirmed seen ∧ (after seen).stage = .opening ∧ (after seen).opening = true ∨
    Quiet seen ∧ Confirmed seen ∧ (after seen).stage = .connected ∧
      (after seen).opening = false ∨
    ¬ Quiet seen ∧ ((after seen).stage = .closing ∨ (after seen).stage = .closed) ∧
      (after seen).opening = false := by
  by_cases hquiet : Quiet seen
  · have hgreets := greets_after hquiet
    generalize after seen = s at hgreets ⊢
    cases hgreets with
    | requested hnone =>
      exact .inl ⟨hquiet, fun h => hnone h.accepted, by decide, rfl⟩
    | accepted haccepted hnone => exact .inl ⟨hquiet, hnone, by decide, rfl⟩
    | confirmed hconfirmed => exact .inr (.inl ⟨hquiet, hconfirmed, by decide, rfl⟩)
  · have hended := ended_after hquiet
    exact .inr (.inr ⟨hquiet, hended.stage, hended.opening⟩)

theorem stage_eq_opening_iff :
    (after seen).stage = .opening ↔ Quiet seen ∧ ¬ Confirmed seen := by
  rcases stage_cases seen with ⟨hq, hc, hs, -⟩ | ⟨hq, hc, hs, -⟩ | ⟨hq, hs | hs, -⟩ <;>
    simp [hq, hs] <;> exact hc

theorem stage_eq_connected_iff :
    (after seen).stage = .connected ↔ Quiet seen ∧ Confirmed seen := by
  rcases stage_cases seen with ⟨hq, hc, hs, -⟩ | ⟨hq, hc, hs, -⟩ | ⟨hq, hs | hs, -⟩ <;>
    simp [hq, hs] <;> exact hc

theorem opening_eq_true_iff :
    (after seen).opening = true ↔ Quiet seen ∧ ¬ Confirmed seen := by
  rcases stage_cases seen with ⟨hq, hc, -, ho⟩ | ⟨hq, hc, -, ho⟩ | ⟨hq, -, ho⟩ <;>
    simp [hq, ho] <;> exact hc

/-- A link is live, requested or connected, exactly as long as no side has closed or reset. -/
theorem live_iff_quiet :
    ((after seen).stage = .opening ∨ (after seen).stage = .connected) ↔ Quiet seen := by
  rw [stage_eq_opening_iff, stage_eq_connected_iff, ← and_or_left]
  exact and_iff_left (Classical.em _).symm

/-- The stage of a link after any trace. It is live exactly as long as no side has closed or
reset, and then connected exactly when the guest has confirmed the connection; it is opening
exactly when the handshake can still complete. It never opens again, and a link that has begun
to close is never live again. -/
theorem stage_after (seen : Trace) :
    (((after seen).stage = .opening ∨ (after seen).stage = .connected) ↔ Quiet seen) ∧
    (Quiet seen → ((after seen).stage = .connected ↔ Confirmed seen)) ∧
    ((after seen).opening = true ↔ (after seen).stage = .opening) ∧
    ∀ later,
      ((after seen).stage ≠ .opening → (after (seen ++ later)).stage ≠ .opening) ∧
      ((after seen).stage = .closing ∨ (after seen).stage = .closed →
        (after (seen ++ later)).stage = .closing ∨ (after (seen ++ later)).stage = .closed) := by
  refine ⟨live_iff_quiet, ?_, ?_, fun later => ⟨?_, ?_⟩⟩
  · intro hquiet
    rw [stage_eq_connected_iff]
    exact and_iff_right hquiet
  · rw [opening_eq_true_iff, stage_eq_opening_iff]
  · rw [ne_eq, ne_eq, stage_eq_opening_iff, stage_eq_opening_iff]
    rintro h ⟨hquiet, hnone⟩
    exact h ⟨hquiet.of_append, fun hconfirmed => hnone (Sometime.append hconfirmed later)⟩
  · intro h
    have hloud : ¬ Quiet seen := by
      rw [← live_iff_quiet]
      rcases h with h | h <;> simp [h]
    exact (ended_after fun hquiet => hloud hquiet.of_append).stage

end LinkState

end GuestNat
