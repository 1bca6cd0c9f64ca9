import GuestNat.Link.State
import Mathlib.Data.List.Induction

/-!
# What a segment does to the state of a link

A trace is what was seen on the two sides of a link, oldest first. A segment changes only
the phase and the noted FIN of its own side; what it makes of them is said once here, with
the handshake kept apart, and traces are followed by adding one observation at the end.
-/
namespace GuestNat

/-- A segment seen on a side of a link, and whether the link had a socket then. -/
structure Observation where
  side : Side
  segment : Segment
  attached : Bool
  deriving DecidableEq, Repr

namespace Observation

def isReset (o : Observation) : Bool := o.segment.flags.rst

def isFin (o : Observation) : Bool := o.segment.flags.fin

/-- A segment of which only the flags and the two numbers matter, seen while the link had a
socket. -/
def bare (side : Side) (flags : Flags) (sequence acknowledgment : UInt32) : Observation :=
  ⟨side, { (default : Segment) with flags, sequence, acknowledgment }, true⟩

end Observation

/-- What was seen of a link, oldest first. -/
abbrev Trace := List Observation

/-- At some place of a trace something holds of what came before and of what came then. -/
def Sometime (P : Trace → Observation → Prop) (seen : Trace) : Prop :=
  ∃ i o, seen[i]? = some o ∧ P (seen.take i) o

section Sometime

variable {P : Trace → Observation → Prop} {seen : Trace}

@[simp] theorem not_sometime_nil : ¬ Sometime P [] := by
  rintro ⟨i, o, h, -⟩
  cases h

theorem Sometime.append (h : Sometime P seen) (later : Trace) : Sometime P (seen ++ later) := by
  obtain ⟨i, o, hi, hp⟩ := h
  have hlt : i < seen.length := (List.getElem?_eq_some_iff.mp hi).1
  refine ⟨i, o, ?_, ?_⟩
  · rwa [List.getElem?_append_left hlt]
  · rwa [List.take_append_of_le_length (Nat.le_of_lt hlt)]

@[simp] theorem sometime_concat {o : Observation} :
    Sometime P (seen ++ [o]) ↔ Sometime P seen ∨ P seen o := by
  constructor
  · rintro ⟨i, p, hi, hp⟩
    rcases Nat.lt_trichotomy i seen.length with hlt | rfl | hgt
    · rw [List.getElem?_append_left hlt] at hi
      rw [List.take_append_of_le_length (Nat.le_of_lt hlt)] at hp
      exact .inl ⟨i, p, hi, hp⟩
    · rw [List.getElem?_concat_length] at hi
      obtain rfl := Option.some.inj hi
      rw [List.take_left] at hp
      exact .inr hp
    · rw [List.getElem?_eq_none (by simp; omega)] at hi
      cases hi
  · rintro (h | h)
    · exact h.append [o]
    · exact ⟨seen.length, o, List.getElem?_concat_length, by rwa [List.take_left]⟩

end Sometime

theorem Phase.lt_lastAck_iff {p : Phase} : p < .lastAck ↔ p ≠ .lastAck := by
  cases p <;> decide

theorem Phase.not_finWait1_le {p : Phase} (h : p < .established) : ¬ .finWait1 ≤ p := by
  revert h
  cases p <;> decide

theorem Side.eq_or_eq_peer (x y : Side) : x = y ∨ x = y.peer := by
  cases x <;> cases y <;> decide

@[simp] theorem Side.ne_peer (x : Side) : x ≠ x.peer := by
  cases x <;> decide

namespace LinkState

def see (s : LinkState) (o : Observation) : LinkState := s.observe o.side o.segment o.attached

def after (seen : Trace) : LinkState := seen.foldl see {}

@[simp] theorem after_concat (seen : Trace) (o : Observation) :
    after (seen ++ [o]) = (after seen).see o := by
  rw [after, List.foldl_append]
  rfl

/-- A segment of a side acknowledges the FIN that a state has noted for the other side. The
number counts as soon as the other side is in a phase of closing. -/
def Answers (s : LinkState) (side : Side) (segment : Segment) : Prop :=
  segment.flags.ack ∧ .finWait1 ≤ s.phase side.peer ∧
    segment.acknowledgment = s.fin side.peer + 1

instance (s : LinkState) (side : Side) (segment : Segment) : Decidable (s.Answers side segment) :=
  inferInstanceAs (Decidable (_ ∧ _ ∧ _))

section Operations

variable (s : LinkState) (x y : Side)

theorem phase_forall {P : Phase → Prop} : (∀ x, P (s.phase x)) ↔ P s.host ∧ P s.guest := by
  constructor
  · exact fun h => ⟨h .host, h .guest⟩
  · intro h x
    cases x with
    | guest => exact h.2
    | host => exact h.1

theorem phase_exists {P : Phase → Prop} : (∃ x, P (s.phase x)) ↔ P s.host ∨ P s.guest := by
  constructor
  · rintro ⟨_ | _, h⟩
    · exact .inr h
    · exact .inl h
  · rintro (h | h)
    · exact ⟨.host, h⟩
    · exact ⟨.guest, h⟩

/-- A link is closed by a reset, or when both sides are in their last phase. -/
theorem stage_eq_closed_iff : s.stage = .closed ↔
    s.finished = true ∧ (∃ x, s.phase x = .closed) ∨ ∀ x, s.phase x = .lastAck := by
  rw [s.phase_exists (P := (· = .closed)), s.phase_forall (P := (· = .lastAck))]
  unfold stage
  split_ifs <;> simp_all

theorem phase_setPhase (p : Phase) :
    (s.setPhase x p).phase y = if x = y then p else s.phase y := by
  cases x <;> cases y <;> rfl

@[simp] theorem fin_setPhase (p : Phase) : (s.setPhase x p).fin y = s.fin y := by
  cases x <;> cases y <;> rfl

@[simp] theorem opening_setPhase (p : Phase) : (s.setPhase x p).opening = s.opening := by
  cases x <;> rfl

@[simp] theorem opening_setFin (n : UInt32) : (s.setFin x n).opening = s.opening := by
  cases x <;> rfl

@[simp] theorem finished_setPhase (p : Phase) : (s.setPhase x p).finished = s.finished := by
  cases x <;> rfl

@[simp] theorem finished_setFin (n : UInt32) : (s.setFin x n).finished = s.finished := by
  cases x <;> rfl

end Operations

section Handshake

variable (s : LinkState) (side x : Side) (flags : Flags)

theorem observeHandshake_of_not_opening (h : s.opening = false) :
    s.observeHandshake side flags = s := by
  simp [observeHandshake, h]

theorem phase_observeHandshake : (s.observeHandshake side flags).phase x = s.phase x ∨
    side = x ∧ s.phase x < .established ∧
      (s.observeHandshake side flags).phase x = .established := by
  unfold observeHandshake
  cases side <;> cases x <;> dsimp only <;> split_ifs <;> simp_all [phase]

theorem phase_observeHandshake_of_ne (h : side ≠ x) :
    (s.observeHandshake side flags).phase x = s.phase x :=
  (s.phase_observeHandshake side x flags).resolve_right fun he => h he.1

theorem phase_observeHandshake_eq_lastAck :
    (s.observeHandshake side flags).phase x = .lastAck ↔ s.phase x = .lastAck := by
  rcases s.phase_observeHandshake side x flags with he | ⟨-, hlt, he⟩
  · rw [he]
  · exact iff_of_false (by rw [he]; decide) fun hlast => absurd (hlast ▸ hlt) (by decide)

theorem finWait1_le_phase_observeHandshake :
    .finWait1 ≤ (s.observeHandshake side flags).phase x ↔ .finWait1 ≤ s.phase x := by
  rcases s.phase_observeHandshake side x flags with he | ⟨-, hlt, he⟩
  · rw [he]
  · exact iff_of_false (by rw [he]; decide) (Phase.not_finWait1_le hlt)

theorem phase_eq_closed_of_observeHandshake
    (h : (s.observeHandshake side flags).phase x = .closed) : s.phase x = .closed := by
  rcases s.phase_observeHandshake side x flags with he | ⟨-, -, he⟩
  · rwa [he] at h
  · rw [he] at h
    cases h

@[simp] theorem fin_observeHandshake : (s.observeHandshake side flags).fin x = s.fin x := by
  unfold observeHandshake
  cases side <;> cases x <;> dsimp only <;> split_ifs <;> rfl

@[simp] theorem finished_observeHandshake :
    (s.observeHandshake side flags).finished = s.finished := by
  unfold observeHandshake
  cases side <;> dsimp only <;> split_ifs <;> rfl

end Handshake

section Close

variable (s : LinkState) (side x : Side) (segment : Segment) (attached : Bool)

theorem phase_observeFin : (s.observeFin side segment attached).phase x =
    if side = x ∧ segment.flags.fin ∧ s.phase x ≠ .lastAck then .finWait1 else s.phase x := by
  unfold observeFin
  cases side <;> cases x <;> dsimp only <;> split_ifs <;>
    simp_all [phase, setPhase, setFin, Phase.lt_lastAck_iff]

theorem fin_observeFin : (s.observeFin side segment attached).fin x =
    if side = x ∧ segment.flags.fin then segment.sequence else s.fin x := by
  unfold observeFin
  cases side <;> cases x <;> dsimp only <;> split_ifs <;> simp_all [fin, setPhase, setFin]

@[simp] theorem opening_observeFin :
    (s.observeFin side segment attached).opening = (s.opening && !segment.flags.fin) := by
  unfold observeFin
  dsimp only
  split_ifs <;> simp_all

@[simp] theorem finished_observeFin : (s.observeFin side segment attached).finished =
    (s.finished || (segment.flags.fin && !attached)) := by
  unfold observeFin
  dsimp only
  split_ifs <;> simp_all

theorem phase_observeAck : (s.observeAck side segment).phase x =
    if side = x ∧ s.Answers side segment then .lastAck else s.phase x := by
  unfold observeAck
  by_cases ha : s.Answers side segment
  · by_cases hl : s.phase side = .lastAck
    · rw [if_neg (by simp [Phase.lt_lastAck_iff, hl])]
      split_ifs with h
      · rw [← h.1, hl]
      · rfl
    · rw [if_pos ⟨ha.1, Phase.lt_lastAck_iff.mpr hl, ha.2⟩, phase_setPhase]
      simp only [ha, and_true]
  · rw [if_neg (fun h => ha ⟨h.1, h.2.2⟩), if_neg (fun h => ha h.2)]

@[simp] theorem fin_observeAck : (s.observeAck side segment).fin x = s.fin x := by
  unfold observeAck
  split_ifs <;> simp

@[simp] theorem opening_observeAck : (s.observeAck side segment).opening = s.opening := by
  unfold observeAck
  split_ifs <;> simp

@[simp] theorem finished_observeAck : (s.observeAck side segment).finished = s.finished := by
  unfold observeAck
  split_ifs <;> simp

@[simp] theorem phase_settle : s.settle.phase x = s.phase x := by
  unfold settle
  cases x <;> split_ifs <;> rfl

@[simp] theorem fin_settle : s.settle.fin x = s.fin x := by
  unfold settle
  cases x <;> split_ifs <;> rfl

@[simp] theorem opening_settle : s.settle.opening = s.opening := by
  unfold settle
  split_ifs <;> rfl

theorem finished_settle :
    s.settle.finished = true ↔ s.finished = true ∨ ∀ x, s.phase x = .lastAck := by
  unfold settle
  rw [s.phase_forall (P := (· = .lastAck))]
  split_ifs <;> simp_all

end Close

section See

variable {s : LinkState} {o : Observation}

theorem see_of_reset (h : o.isReset = true) :
    s.see o = { s with finished := true, opening := false }.setPhase o.side .closed := by
  rw [Observation.isReset] at h
  rw [see, observe, if_pos h]

theorem see_of_not_reset (h : o.isReset = false) :
    s.see o = (((s.observeHandshake o.side o.segment.flags).observeFin o.side o.segment
      o.attached).observeAck o.side o.segment).settle := by
  rw [Observation.isReset] at h
  rw [see, observe, if_neg (by simp [h])]

/-- What a segment makes of a phase: to acknowledge the FIN of the other side is the end of a
side, its own FIN starts its close, and a handshake can only establish it. -/
theorem phase_see (h : o.isReset = false) (x : Side) : (s.see o).phase x =
    if o.side = x then
      if s.phase x = .lastAck ∨ s.Answers o.side o.segment then .lastAck
      else if o.isFin then .finWait1
      else (s.observeHandshake o.side o.segment.flags).phase x
    else s.phase x := by
  have hother : ∀ y, o.side ≠ y →
      ((s.observeHandshake o.side o.segment.flags).observeFin o.side o.segment o.attached).phase y =
        s.phase y := by
    intro y hy
    rw [phase_observeFin, if_neg (by simp [hy]), phase_observeHandshake_of_ne _ _ _ _ hy]
  -- What is acknowledged is noted for the other side, which is as it was.
  have hanswers : ((s.observeHandshake o.side o.segment.flags).observeFin o.side o.segment
      o.attached).Answers o.side o.segment ↔ s.Answers o.side o.segment := by
    rw [Answers, Answers, hother _ o.side.ne_peer, fin_observeFin, if_neg (by simp),
      fin_observeHandshake]
  rw [see_of_not_reset h, phase_settle, phase_observeAck]
  simp only [hanswers]
  by_cases hx : o.side = x
  · rw [if_pos hx]
    by_cases hends : s.Answers o.side o.segment
    · rw [if_pos ⟨hx, hends⟩, if_pos (.inr hends)]
    · rw [if_neg (fun he => hends he.2), phase_observeFin]
      simp only [ne_eq, phase_observeHandshake_eq_lastAck, Observation.isFin, hx, true_and]
      by_cases hlast : s.phase x = .lastAck
      · rw [if_neg (fun he => he.2 hlast), if_pos (.inl hlast)]
        exact (phase_observeHandshake_eq_lastAck ..).mpr hlast
      · rw [if_neg (not_or.mpr ⟨hlast, hx ▸ hends⟩)]
        simp only [hlast, not_false_eq_true, and_true]
  · rw [if_neg (fun he => hx he.1), if_neg hx, hother x hx]

/-- A side stays in its last phase, and gets there by an acknowledgment of the other FIN. -/
theorem phase_see_eq_lastAck (h : o.isReset = false) {x : Side} :
    (s.see o).phase x = .lastAck ↔
      s.phase x = .lastAck ∨ o.side = x ∧ s.Answers o.side o.segment := by
  rw [phase_see h]
  by_cases hx : o.side = x
  · simp only [hx, if_true, true_and]
    split_ifs with hlast hfin
    · exact iff_of_true rfl hlast
    · exact iff_of_false (by decide) hlast
    · rw [phase_observeHandshake_eq_lastAck]
      exact iff_of_false (fun he => hlast (.inl he)) hlast
  · rw [if_neg hx, or_iff_left fun he => hx he.1]

/-- A side that has begun to close stays so, and begins by its FIN or by acknowledging the
FIN of the other side. -/
theorem finWait1_le_phase_see (h : o.isReset = false) {x : Side} :
    .finWait1 ≤ (s.see o).phase x ↔ .finWait1 ≤ s.phase x ∨
      o.side = x ∧ (o.isFin = true ∨ s.Answers o.side o.segment) := by
  rw [phase_see h]
  by_cases hx : o.side = x
  · simp only [hx, if_true, true_and]
    split_ifs with hlast hfin
    · refine iff_of_true (by decide) ?_
      rcases hlast with hlast | hends
      · exact .inl (by rw [hlast]; decide)
      · exact .inr (.inr hends)
    · exact iff_of_true (by decide) (.inr (.inl hfin))
    · rw [finWait1_le_phase_observeHandshake, or_iff_left]
      exact not_or.mpr ⟨hfin, fun hends => hlast (.inr hends)⟩
  · rw [if_neg hx, or_iff_left fun he => hx he.1]

theorem phase_eq_closed_of_see (h : o.isReset = false) {x : Side}
    (hclosed : (s.see o).phase x = .closed) : s.phase x = .closed := by
  rw [phase_see h] at hclosed
  split_ifs at hclosed
  · exact phase_eq_closed_of_observeHandshake _ _ _ _ hclosed
  · exact hclosed

/-- Once the handshake is over, a side leaves the phase of a reset only by closing. -/
theorem phase_see_eq_closed (h : o.isReset = false) (hopening : s.opening = false) {x : Side} :
    (s.see o).phase x = .closed ↔ s.phase x = .closed ∧
      (o.side = x → o.isFin = false ∧ ¬ s.Answers o.side o.segment) := by
  rw [phase_see h, observeHandshake_of_not_opening _ _ _ hopening]
  by_cases hx : o.side = x
  · simp only [hx, if_true, true_imp_iff]
    split_ifs with hlast hfin
    · refine iff_of_false (by decide) ?_
      rintro ⟨hclosed, -, hends⟩
      rcases hlast with hlast | hlast
      · rw [hlast] at hclosed
        cases hclosed
      · exact hends hlast
    · exact iff_of_false (by decide) fun he => absurd hfin (by simp [he.2.1])
    · rw [not_or] at hlast
      exact (and_iff_left ⟨Bool.eq_false_iff.mpr hfin, hlast.2⟩).symm
  · rw [if_neg hx]
    exact (and_iff_left fun he => absurd he hx).symm

theorem fin_see (h : o.isReset = false) (x : Side) :
    (s.see o).fin x = if o.side = x ∧ o.isFin then o.segment.sequence else s.fin x := by
  rw [see_of_not_reset h, fin_settle, fin_observeAck, fin_observeFin, fin_observeHandshake,
    Observation.isFin]

/-- The handshake can still complete only if it could before, and the segment closes nothing. -/
theorem of_opening_see (h : (s.see o).opening = true) :
    s.opening = true ∧ o.isReset = false ∧ o.isFin = false := by
  cases hreset : o.isReset with
  | true =>
    rw [see_of_reset hreset, opening_setPhase] at h
    cases h
  | false =>
    rw [see_of_not_reset hreset, opening_settle, opening_observeAck, opening_observeFin,
      Bool.and_eq_true, Bool.not_eq_true'] at h
    refine ⟨?_, rfl, h.2⟩
    by_contra hover
    rw [observeHandshake_of_not_opening _ _ _ (Bool.eq_false_iff.mpr hover)] at h
    exact hover h.1

/-- A link is finished by a reset, by a FIN that finds no socket, or when both sides have ended;
and it stays finished. -/
theorem finished_see : (s.see o).finished = true ↔
    s.finished = true ∨ o.isReset = true ∨ (o.isFin = true ∧ o.attached = false) ∨
      ∀ x, (s.see o).phase x = .lastAck := by
  cases hreset : o.isReset with
  | true =>
    refine iff_of_true ?_ (.inr (.inl rfl))
    rw [see_of_reset hreset, finished_setPhase]
  | false =>
    rw [see_of_not_reset hreset, finished_settle]
    simp [Observation.isFin, or_assoc]

/-- A segment that closes nothing takes part in the handshake only. -/
theorem see_of_quiet (hreset : o.isReset = false) (hfin : o.isFin = false)
    (hpeer : ¬ .finWait1 ≤ s.phase o.side.peer) :
    s.see o = s.observeHandshake o.side o.segment.flags := by
  rw [Observation.isFin] at hfin
  have hphase := s.phase_observeHandshake_of_ne o.side o.side.peer o.segment.flags o.side.ne_peer
  rw [see_of_not_reset hreset, observeFin, if_neg (by simp [hfin]), observeAck,
    if_neg (fun h => hpeer (hphase ▸ h.2.2.1)), settle, if_neg]
  intro hboth
  have hlast := (phase_forall _ (P := (· = .lastAck))).mpr hboth o.side.peer
  exact hpeer (by rw [← hphase, hlast]; decide)

end See

end LinkState

end GuestNat
