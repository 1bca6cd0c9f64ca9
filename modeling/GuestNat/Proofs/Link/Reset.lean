import GuestNat.Proofs.Link.Handshake

/-!
# Resets

A reset closes a link. Later segments of the side that was reset are still followed, though,
and since the phase of a reset comes first in the order, a FIN or an acknowledgment of the
other FIN takes that side on as if it had never been reset. What keeps a closed link closed
is said exactly.
-/
namespace GuestNat.LinkState

/-- A segment brings a closed link back: it takes the only side that was reset out of the phase
of a reset, and that does not end both sides. -/
def Revives (s : LinkState) (o : Observation) : Prop :=
  o.isReset = false ∧ s.phase o.side = .closed ∧ s.phase o.side.peer ≠ .closed ∧
    if s.Answers o.side o.segment then s.phase o.side.peer ≠ .lastAck else o.isFin = true

variable {s : LinkState} {o : Observation}

/-- What is left of a closed link is read off the phase of the side that was seen. -/
lemma stage_see_of_finished (hreset : o.isReset = false) (hfinished : s.finished = true)
    (hpeer : s.phase o.side.peer ≠ .closed) : (s.see o).stage = .closed ↔
      (s.see o).phase o.side = .closed ∨
        (s.see o).phase o.side = .lastAck ∧ s.phase o.side.peer = .lastAck := by
  have hsame : (s.see o).phase o.side.peer = s.phase o.side.peer := by
    rw [phase_see hreset, if_neg o.side.ne_peer]
  rw [stage_eq_closed_iff]
  constructor
  · rintro (⟨-, x, hx⟩ | hlast)
    · rcases x.eq_or_eq_peer o.side with rfl | rfl
      · exact .inl hx
      · exact absurd (hsame ▸ hx) hpeer
    · exact .inr ⟨hlast _, hsame ▸ hlast _⟩
  · rintro (hside | ⟨hside, hother⟩)
    · exact .inl ⟨finished_see.mpr (.inl hfinished), o.side, hside⟩
    · refine .inr fun x => ?_
      rcases x.eq_or_eq_peer o.side with rfl | rfl
      · exact hside
      · rw [hsame, hother]

/-- A closed link stays closed unless it is brought back. -/
theorem stage_see_eq_closed (hclosed : s.stage = .closed) (hopening : s.opening = false) :
    (s.see o).stage = .closed ↔ ¬ s.Revives o := by
  cases hreset : o.isReset with
  | true =>
    refine iff_of_true ((stage_eq_closed_iff _).mpr (.inl ?_)) (by simp [Revives, hreset])
    rw [see_of_reset hreset]
    exact ⟨finished_setPhase .., o.side, by rw [phase_setPhase, if_pos rfl]⟩
  | false =>
    rcases s.stage_eq_closed_iff.mp hclosed with ⟨hfinished, hsome⟩ | hlast
    · have hstays : (s.see o).finished = true := finished_see.mpr (.inl hfinished)
      by_cases hpeer : s.phase o.side.peer = .closed
      · refine iff_of_true ((stage_eq_closed_iff _).mpr (.inl ⟨hstays, o.side.peer, ?_⟩)) ?_
        · rw [phase_see hreset, if_neg o.side.ne_peer, hpeer]
        · rintro ⟨-, -, hne, -⟩
          exact hne hpeer
      · have hside : s.phase o.side = .closed := by
          obtain ⟨x, hx⟩ := hsome
          rcases x.eq_or_eq_peer o.side with rfl | rfl
          · exact hx
          · exact absurd hx hpeer
        rw [stage_see_of_finished hreset hfinished hpeer, phase_see_eq_closed hreset hopening,
          phase_see_eq_lastAck hreset, Revives]
        by_cases hanswers : s.Answers o.side o.segment <;>
          simp [hreset, hside, hpeer, hanswers]
    · refine iff_of_true ((stage_eq_closed_iff _).mpr (.inr fun x => ?_)) ?_
      · exact (phase_see_eq_lastAck hreset).mpr (.inl (hlast x))
      · rintro ⟨-, hside, -⟩
        rw [hlast] at hside
        cases hside

lemma opening_of_closed {seen : Trace} (h : (after seen).stage = .closed) :
    (after seen).opening = false := by
  rw [← Bool.not_eq_true, opening_eq_true_iff, ← stage_eq_opening_iff, h]
  decide

/-- A closed link stays closed for as long as no segment brings it back, and no longer. -/
theorem closed_until_revived {seen : Trace} (later : Trace) (h : (after seen).stage = .closed) :
    (∀ n, (after (seen ++ later.take n)).stage = .closed) ↔
      ¬ Sometime (fun past o => (after (seen ++ past)).Revives o) later := by
  have hstep : ∀ n o, later[n]? = some o →
      after (seen ++ later.take (n + 1)) = (after (seen ++ later.take n)).see o := by
    intro n o ho
    rw [List.take_add_one, ho, Option.toList_some, ← List.append_assoc, after_concat]
  constructor
  · rintro hclosed ⟨i, o, ho, hrevives⟩
    have hnext := hclosed (i + 1)
    rw [hstep i o ho] at hnext
    exact (stage_see_eq_closed (hclosed i) (opening_of_closed (hclosed i))).mp hnext hrevives
  · intro hnever n
    induction n with
    | zero => rwa [List.take_zero, List.append_nil]
    | succ n ih =>
      cases ho : later[n]? with
      | none => rwa [List.take_add_one, ho, Option.toList_none, List.append_nil]
      | some o =>
        rw [hstep n o ho, stage_see_eq_closed ih (opening_of_closed ih)]
        exact fun hrevives => hnever ⟨n, o, ho, hrevives⟩

/-- The guest resets; then it sends a plain segment, and the host closes. -/
theorem closed_until_revived_host_fin :
    let seen : Trace :=
      [.bare .guest { syn := true } 100 0,
        .bare .host { syn := true, ack := true } 5000 101,
        .bare .guest { rst := true } 101 0]
    let later : Trace :=
      [.bare .guest { ack := true } 101 5001,
        .bare .host { fin := true, ack := true } 5001 101]
    (after seen).stage = .closed ∧ (after (seen ++ later)).stage = .closed := by
  intro seen later
  have hclosed : (after seen).stage = .closed := by decide
  refine ⟨hclosed, (closed_until_revived later hclosed).mpr ?_ 2⟩
  rintro ⟨_ | _ | i, o, ho, -, hside, hpeer, hrevives⟩
  · obtain rfl := Option.some.inj ho
    exact absurd hrevives (by decide)
  · obtain rfl := Option.some.inj ho
    exact absurd hside (by decide)
  · cases ho

/-- A FIN of the guest that arrives behind its reset brings the link back. -/
theorem reset_revived_by_fin :
    let seen : Trace :=
      [.bare .guest { syn := true } 100 0,
        .bare .host { syn := true, ack := true } 5000 101,
        .bare .guest { ack := true } 101 5001,
        .bare .guest { rst := true } 102 0]
    let late : Observation := .bare .guest { fin := true, ack := true } 101 5001
    (after seen).stage = .closed ∧ (after (seen ++ [late])).stage = .closing := by
  decide

end GuestNat.LinkState
