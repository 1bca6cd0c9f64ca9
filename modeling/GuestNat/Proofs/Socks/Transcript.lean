import GuestNat.Proofs.Socks.Conversation

/-!
# Transcripts

What a run on a transport hears and says, in the order in which it does (`Dialogue.transcript`).
It is all that the run takes off the source and adds to the sink (`octets_run_transcript`,
`written_run`), whether or not the run succeeds. A dialogue keeps within what is allowed if at no
time it has said anything but a first part of what is allowed after all that it has heard by then
(`Dialogue.Within`); that is shown along the dialogue, one lemma for each of its forms.
-/
namespace GuestNat

/-- One turn of a conversation. -/
inductive Turn where
  | heard (octet : UInt8)
  | said (bytes : Bytes)
  deriving DecidableEq, Repr

def heardIn (turns : List Turn) : Bytes :=
  turns.flatMap fun
    | .heard octet => [octet]
    | .said _ => []

def saidIn (turns : List Turn) : Bytes :=
  turns.flatMap fun
    | .heard _ => []
    | .said bytes => bytes

section Turns

variable (turns : List Turn)

@[simp] theorem heardIn_heard (b : UInt8) : heardIn (.heard b :: turns) = b :: heardIn turns := rfl

@[simp] theorem heardIn_said (bs : Bytes) : heardIn (.said bs :: turns) = heardIn turns := rfl

@[simp] theorem saidIn_nil : saidIn [] = [] := rfl

@[simp] theorem saidIn_heard (b : UInt8) : saidIn (.heard b :: turns) = saidIn turns := rfl

@[simp] theorem saidIn_said (bs : Bytes) : saidIn (.said bs :: turns) = bs ++ saidIn turns := rfl

lemma heardIn_mono {past turns : List Turn} (h : past <+: turns) :
    heardIn past <+: heardIn turns := by
  obtain ⟨later, rfl⟩ := h
  rw [heardIn, heardIn, List.flatMap_append]
  exact List.prefix_append ..

end Turns

/-- What a sink takes of a string. -/
def Sink.taken (s : Sink) (bs : Bytes) : Bytes :=
  match s.limit with
  | none => bs
  | some (room, _) => bs.take room

namespace Sink

variable (s : Sink) (bs : Bytes)

lemma written_write_taken : (s.write bs).1.written = s.written ++ s.taken bs := by
  unfold write taken
  cases s.limit <;> rfl

lemma taken_begins : s.taken bs <+: bs := by
  unfold taken
  cases s.limit with
  | none => exact List.prefix_rfl
  | some room => exact List.take_prefix ..

lemma taken_of_ok {s s' : Sink} {bs : Bytes} (h : s.write bs = (s', .ok ())) :
    s.taken bs = bs := by
  have hwritten := s.written_write_taken bs
  rw [h, written_write h] at hwritten
  exact (List.append_cancel_left hwritten).symm

end Sink

lemma Source.octets_of_next?_eq_none {s : Source} (h : s.next? = none) : s.octets = [] := by
  cases ho : s.octets with
  | nil => rfl
  | cons b rest =>
    obtain ⟨s', hnext, -⟩ := next?_of_octets ho
    rw [hnext] at h
    cases h

namespace Dialogue

/-- The turns of a run, in their order. A string that is not taken whole is said as far as it
is. -/
def transcript : Dialogue → Transport → List Turn
  | done, _ => []
  | fail _, _ => []
  | write bytes next, t =>
    .said (t.sink.taken bytes) :: match t.sink.write bytes with
      | (sink, .ok ()) => next.transcript { t with sink }
      | (_, .error _) => []
  | read next, t =>
    match t.source.next? with
    | some (b, source) => .heard b :: (next b).transcript { t with source }
    | none => []

theorem written_run (d : Dialogue) (t : Transport) :
    (d.run t).1.sink.written = t.sink.written ++ saidIn (d.transcript t) := by
  induction d generalizing t with
  | done | fail => exact (List.append_nil _).symm
  | write bytes next ih =>
    have htaken := t.sink.written_write_taken bytes
    rcases hwrite : t.sink.write bytes with ⟨sink, fault | ⟨⟩⟩
    · simp only [run, transcript, hwrite] at htaken ⊢
      rw [htaken, saidIn_said, saidIn_nil, List.append_nil]
    · simp only [run, transcript, hwrite] at htaken ⊢
      rw [ih, htaken, saidIn_said, List.append_assoc]
  | read next ih =>
    cases hnext : t.source.next? with
    | none =>
      simp only [run, transcript, hnext]
      exact (List.append_nil _).symm
    | some octet =>
      simp only [run, transcript, hnext]
      exact ih octet.1 _

theorem octets_run_transcript (d : Dialogue) (t : Transport) :
    t.source.octets = heardIn (d.transcript t) ++ (d.run t).1.source.octets := by
  induction d generalizing t with
  | done | fail => rfl
  | write bytes next ih =>
    rcases hwrite : t.sink.write bytes with ⟨sink, fault | ⟨⟩⟩
    · simp only [run, transcript, hwrite]
      rfl
    · simp only [run, transcript, hwrite]
      exact ih { t with sink }
  | read next ih =>
    cases hnext : t.source.next? with
    | none =>
      simp only [run, transcript, hnext]
      exact Source.octets_of_next?_eq_none hnext
    | some octet =>
      simp only [run, transcript, hnext]
      rw [Source.octets_of_next? hnext, heardIn_heard, List.cons_append,
        ← ih octet.1 { t with source := octet.2 }]

/-- A run that succeeds is a conversation of what it hears and says. -/
theorem succeeds_transcript {d : Dialogue} {t : Transport} (h : (d.run t).2 = .ok ()) :
    d.Succeeds (heardIn (d.transcript t)) (saidIn (d.transcript t)) := by
  induction d generalizing t with
  | done => exact .done
  | fail => cases h
  | write bytes next ih =>
    rcases hwrite : t.sink.write bytes with ⟨sink, fault | ⟨⟩⟩
    · simp only [run, hwrite] at h
      cases h
    · simp only [run, hwrite] at h
      simp only [transcript, hwrite, heardIn_said, saidIn_said]
      rw [Sink.taken_of_ok hwrite]
      exact .write (ih h)
  | read next ih =>
    cases hnext : t.source.next? with
    | none =>
      simp only [run, hnext] at h
      cases h
    | some octet =>
      simp only [run, hnext] at h
      simp only [transcript, hnext, heardIn_heard, saidIn_heard]
      exact .read (ih _ h)

/-- At no time of a run has the dialogue said anything but a first part of what is allowed after
what it has heard by then. -/
def Within (d : Dialogue) (allowed : Bytes → Bytes) : Prop :=
  ∀ t past, past <+: d.transcript t → saidIn past <+: allowed (heardIn past)

variable {allowed : Bytes → Bytes}

lemma within_done : done.Within allowed := by
  intro t past h
  rw [List.prefix_nil.mp h]
  exact List.nil_prefix

lemma within_fail (fault : Fault) : (fail fault).Within allowed := by
  intro t past h
  rw [List.prefix_nil.mp h]
  exact List.nil_prefix

/-- What is written comes in front of what is allowed then. -/
lemma Within.write {next : Dialogue} (h : next.Within allowed) (bytes : Bytes) :
    (write bytes next).Within fun heard => bytes ++ allowed heard := by
  intro t past hpast
  simp only [transcript, List.prefix_cons_iff] at hpast
  rcases hpast with rfl | ⟨later, rfl, hlater⟩
  · exact List.nil_prefix
  rw [saidIn_said, heardIn_said]
  split at hlater
  · rename_i sink hwrite
    rw [Sink.taken_of_ok hwrite]
    exact (List.prefix_append_right_inj bytes).mpr (h _ _ hlater)
  · rw [List.prefix_nil.mp hlater, saidIn_nil, List.append_nil]
    exact (t.sink.taken_begins bytes).trans (List.prefix_append ..)

/-- After an octet is heard, what is allowed may depend on it. -/
lemma Within.read {next : UInt8 → Dialogue}
    (h : ∀ b, (next b).Within fun heard => allowed (b :: heard)) : (read next).Within allowed := by
  intro t past hpast
  simp only [transcript] at hpast
  split at hpast
  · rename_i b source hnext
    rcases List.prefix_cons_iff.mp hpast with rfl | ⟨later, rfl, hlater⟩
    · exact List.nil_prefix
    · exact h b _ _ hlater
  · rw [List.prefix_nil.mp hpast]
    exact List.nil_prefix

lemma Within.skip {next : Dialogue} {n : Nat}
    (h : ∀ skipped : Bytes, next.Within fun heard => allowed (skipped ++ heard)) :
    (Dialogue.skip n next).Within allowed := by
  induction n generalizing allowed with
  | zero => exact h []
  | succ n ih => exact .read fun b => ih fun skipped => h (b :: skipped)

end Dialogue

end GuestNat
