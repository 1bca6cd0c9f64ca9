import GuestNat.Proofs.Link.Close

/-!
# A FIN that carries data

A FIN stands behind the payload of its segment, so what acknowledges it is the first number
behind the whole segment. What is noted of it is the number at which the segment starts. The
two agree for a FIN that comes alone; behind a payload its acknowledgment is not known as one.
-/
namespace GuestNat

/-- A FIN consumes one number exactly if its segment has nothing else to number. -/
lemma Segment.sequenceLength_eq_one_iff {s : Segment} (hfin : s.flags.fin = true)
    (hfits : s.payload.length ≤ Frame.maxPayload) :
    s.sequenceLength = 1 ↔ s.payload = [] ∧ s.flags.syn = false := by
  have hone : (1 : UInt32).toNat = 1 := rfl
  rw [Frame.maxPayload] at hfits
  rw [sequenceLength, ← UInt32.toNat_inj, UInt32.toNat_ofNat', hfin, hone,
    ← List.length_eq_zero_iff]
  cases s.flags.syn
  · simp only [Bool.toNat_false, Bool.toNat_true, and_true]
    omega
  · simp only [Bool.toNat_true, Bool.true_eq_false, and_false, iff_false]
    omega

variable {before between : Trace} {f : Observation}

/-- The last FIN of a side is the one behind which the side has sent no other. -/
lemma lastFin?_append_cons (hfin : f.isFin = true)
    (hbetween : ∀ g ∈ between, g.isFin = true → g.side ≠ f.side) :
    lastFin? (before ++ f :: between) f.side = some f := by
  have hnone : between.filter (fun g => g.isFin && g.side == f.side) = [] := by
    rw [List.filter_eq_nil_iff]
    simpa using hbetween
  rw [lastFin?, List.filter_append, List.filter_cons_of_pos (by simp [hfin]), hnone]
  simp

namespace LinkState

/-- A side that acknowledges the whole segment of the last FIN of the other side has ended after
that if the FIN came alone in its segment, and otherwise only if it had ended before. -/
theorem ended_iff_fin_alone {o : Observation}
    (hfree : ResetFree (before ++ f :: between ++ [o])) (hfin : f.isFin = true)
    (hbetween : ∀ g ∈ between, g.isFin = true → g.side ≠ f.side) (hside : o.side = f.side.peer)
    (hack : o.segment.flags.ack = true)
    (hnumber : o.segment.acknowledgment = f.segment.sequence + f.segment.sequenceLength) :
    ((after (before ++ f :: between ++ [o])).phase o.side = .lastAck ↔
      f.segment.sequenceLength = 1 ∨ (after (before ++ f :: between)).phase o.side = .lastAck) ∧
    (f.segment.payload.length ≤ Frame.maxPayload → (f.segment.sequenceLength = 1 ↔
      f.segment.payload = [] ∧ f.segment.flags.syn = false)) := by
  rw [resetFree_concat] at hfree
  have hlast : lastFin? (before ++ f :: between) o.side.peer = some f := by
    rw [hside, Side.peer_peer]
    exact lastFin?_append_cons hfin hbetween
  have hanswers : (after (before ++ f :: between)).Answers o.side o.segment ↔
      f.segment.sequenceLength = 1 := by
    rw [answers_after hfree.1, Acknowledges, hlast, hnumber]
    simp [hack]
  refine ⟨?_, fun hfits => Segment.sequenceLength_eq_one_iff hfin hfits⟩
  rw [after_concat, phase_see_eq_lastAck hfree.2, hanswers, or_comm]
  simp only [true_and]

/-- A repeated FIN comes alone, with a plain segment of the host in between, and the host
acknowledges it: the host has ended. -/
theorem ended_iff_fin_alone_repeated :
    let fin : Observation := .bare .guest { fin := true, ack := true } 4294967295 5001
    let before : Trace := [.bare .host { syn := true, ack := true } 5000 101, fin]
    let between : Trace := [.bare .host { psh := true, ack := true } 5001 101]
    let last : Observation := .bare .host { ack := true } 5001 0
    ResetFree (before ++ fin :: between ++ [last]) ∧
      (after (before ++ fin :: between ++ [last])).phase .host = .lastAck := by
  intro fin before between last
  have hfree : ResetFree (before ++ fin :: between ++ [last]) := by decide
  have halone : fin.segment.sequenceLength = 1 := by decide
  obtain ⟨hended, -⟩ := ended_iff_fin_alone hfree rfl (by decide) rfl rfl (by decide)
  exact ⟨hfree, hended.mpr (.inl halone)⟩

/-- The guest closes with its last two octets, and the host acknowledges all of that: it is
not taken to have acknowledged the FIN. -/
theorem data_fin_acknowledged_in_vain :
    let fin : Observation :=
      { side := .guest
        segment := { (default : Segment) with
          flags := { fin := true, psh := true, ack := true }
          sequence := 101, acknowledgment := 5001, payload := [104, 105] }
        attached := true }
    let seen : Trace :=
      [.bare .guest { syn := true } 100 0,
        .bare .host { syn := true, ack := true } 5000 101,
        .bare .guest { ack := true } 101 5001,
        fin,
        .bare .host { ack := true } 5001 104]
    ResetFree seen ∧ fin.segment.sequence + fin.segment.sequenceLength = 104 ∧
      (after seen).phase .host = .established := by
  decide

end LinkState

end GuestNat
