import GuestNat.Proofs.Socks.Conversation
import GuestNat.Relay
import Mathlib.Algebra.GroupWithZero.Nat

/-!
# The course of a pipe

A read of no octets is the end of a stream, so what a pipe can carry of its source is what comes
before the first such read (`Source.stream`). The course of a pipe is the relation between a pipe,
what became of it after some steps, and how many octets these carried: it has carried whole reads,
one behind the other, and it runs, or has ended, or has failed in reading or in writing. Every
step goes on in the course (`Course.step`), and a pipe comes to its end (`isSome_result_after`).
-/
namespace GuestNat

namespace Source

/-- What can be read before a read of no octets. -/
def stream (s : Source) : Bytes := (s.chunks.takeWhile (· ≠ [])).flatten

variable {s t : Source} {most : Nat} {bs : Bytes}

lemma stream_of_read (h : s.read most = (t, .ok bs)) (hbs : bs ≠ []) :
    s.stream = bs ++ t.stream := by
  unfold read at h
  split at h
  · split at h <;> simp_all
  · rename_i c rest hs
    obtain ⟨rfl, hread⟩ := Prod.mk.inj h
    obtain rfl := Except.ok.inj hread
    have hc : c ≠ [] := by
      rintro rfl
      exact hbs List.take_nil
    by_cases hfits : c.length ≤ most
    · simp [stream, hs, hc, hfits, List.take_of_length_le hfits]
    · have hdrop : c.drop most ≠ [] := by simpa using hfits
      simp [stream, hs, hc, hfits, hdrop, ← List.append_assoc, List.take_append_drop]

lemma stream_of_read_nil (hmost : 0 < most) (h : s.read most = (t, .ok [])) : s.stream = [] := by
  unfold read at h
  split at h
  · rename_i hs
    simp [stream, hs]
  · rename_i c rest hs
    obtain ⟨-, hread⟩ := Prod.mk.inj h
    have hc : c = [] := by
      rcases List.take_eq_nil_iff.mp (Except.ok.inj hread) with hzero | hnil
      · omega
      · exact hnil
    simp [stream, hs, hc]

lemma stream_of_read_error {fault : Fault} (h : s.read most = (t, .error fault)) :
    s.stream = [] := by
  unfold read at h
  split at h
  · rename_i hs
    simp [stream, hs]
  · cases h

/-- Reads of some octets each, one behind the other, and the source behind them. -/
inductive Reads (most : Nat) (s : Source) : List Bytes → Source → Prop
  | none : Reads most s [] s
  | snoc {done : List Bytes} {t u : Source} {bs : Bytes} (h : Reads most s done t)
      (hread : t.read most = (u, .ok bs)) (hbs : bs ≠ []) : Reads most s (done ++ [bs]) u

/-- What was read is the front of the stream. -/
lemma Reads.stream_eq {done : List Bytes} (h : s.Reads most done t) :
    s.stream = done.flatten ++ t.stream := by
  induction h with
  | none => rfl
  | snoc _ hread hbs ih => rw [ih, stream_of_read hread hbs, List.flatten_concat,
      List.append_assoc]

lemma failure_read (s : Source) (most : Nat) : (s.read most).1.failure = s.failure := by
  unfold read
  split <;> rfl

lemma Reads.failure_eq {done : List Bytes} (h : s.Reads most done t) : t.failure = s.failure := by
  induction h with
  | none => rfl
  | @snoc _ t u _ _ hread _ ih => rw [← ih, ← failure_read t most, hread]

lemma read_ne_error (h : s.failure = none) {fault : Fault} : s.read most ≠ (t, .error fault) := by
  unfold read
  split
  · simp [h]
  · simp

end Source

namespace Sink

variable (s : Sink) (a b : Bytes)

@[simp] lemma write_nil : (s.write []).1 = s := by
  unfold write
  split
  · simp
  · rename_i hlimit
    simp [← hlimit]

lemma write_append : (s.write (a ++ b)).1 = ((s.write a).1.write b).1 := by
  unfold write
  split
  · simp_all
  · simp [List.take_append, Nat.sub_sub]

variable {s a} in
lemma written_of_takes (h : s.Takes a.length) : (s.write a).1.written = s.written ++ a :=
  written_write (Prod.ext rfl ((write_eq_ok_iff s a).mpr h))

lemma write_eq_error_iff {s : Sink} {room : Nat} {fault : Fault}
    (h : s.limit = some (room, fault)) (bs : Bytes) (fault' : Fault) :
    (s.write bs).2 = .error fault' ↔ room < bs.length ∧ fault = fault' := by
  simp only [write, h]
  split <;> grind

lemma limit_write {s : Sink} {room : Nat} {fault : Fault} (h : s.limit = some (room, fault))
    (bs : Bytes) : (s.write bs).1.limit = some (room - bs.length, fault) := by
  simp only [write, h]

lemma written_write_of_limit {s : Sink} {room : Nat} {fault : Fault}
    (h : s.limit = some (room, fault)) (bs : Bytes) :
    (s.write bs).1.written = s.written ++ bs.take room := by
  simp only [write, h]

@[simp] lemma ends_write : (s.write a).1.ends = s.ends := by
  unfold write
  split <;> rfl

@[simp] lemma endFault_write : (s.write a).1.endFault = s.endFault := by
  unfold write
  split <;> rfl

end Sink

namespace Pipe

/-- What becomes of a pipe, and how many octets it carries. -/
inductive Course (p : Pipe) : Pipe → Nat → Prop
  | running {done : List Bytes} {s : Source} (hreads : p.source.Reads bufferSize done s)
      (htakes : p.sink.Takes done.flatten.length) :
      Course p { source := s, sink := (p.sink.write done.flatten).1 } done.flatten.length
  /-- Its source has ended, and it has announced that. -/
  | ended {done : List Bytes} {s t : Source} (hreads : p.source.Reads bufferSize done s)
      (htakes : p.sink.Takes done.flatten.length) (hend : s.read bufferSize = (t, .ok [])) :
      Course p
        { source := t
          sink := (p.sink.write done.flatten).1.finish.1
          result := some (p.sink.write done.flatten).1.finish.2 } done.flatten.length
  /-- Its source has failed. -/
  | unread {done : List Bytes} {s t : Source} {fault : Fault}
      (hreads : p.source.Reads bufferSize done s) (htakes : p.sink.Takes done.flatten.length)
      (hread : s.read bufferSize = (t, .error fault)) :
      Course p
        { source := t, sink := (p.sink.write done.flatten).1, result := some (.error fault) }
        done.flatten.length
  /-- Its sink has failed, and does not get more of the last read than it takes. -/
  | unwritten {done : List Bytes} {s t : Source} {failing : Bytes} {fault : Fault}
      (hreads : p.source.Reads bufferSize done s) (htakes : p.sink.Takes done.flatten.length)
      (hread : s.read bufferSize = (t, .ok failing))
      (hwrite : ((p.sink.write done.flatten).1.write failing).2 = .error fault) :
      Course p
        { source := t
          sink := (p.sink.write (done.flatten ++ failing)).1
          result := some (.error fault) } done.flatten.length

variable {p q : Pipe} {n : Nat}

lemma Course.start (h : p.result = none) : p.Course p 0 := by
  have hp : { source := p.source, sink := (p.sink.write []).1 } = p := by rw [Sink.write_nil, ← h]
  have hcourse : p.Course { source := p.source, sink := (p.sink.write []).1 } 0 :=
    .running .none fun _ _ => Nat.zero_le _
  rwa [hp] at hcourse

/-- A step of a pipe that runs reads once; what it reads decides how it goes on. -/
lemma Course.step_running {done : List Bytes} {s : Source}
    (hreads : p.source.Reads bufferSize done s) (htakes : p.sink.Takes done.flatten.length) :
    let q : Pipe := { source := s, sink := (p.sink.write done.flatten).1 }
    p.Course q.step.1 (done.flatten.length + q.step.2) := by
  intro q
  rw [step, if_neg (by simp [q])]
  split
  · rename_i t fault hread
    exact .unread hreads htakes hread
  · rename_i t hread
    exact .ended hreads htakes hread
  · rename_i t bs hbs hread
    have hwritten := p.sink.write_append done.flatten bs
    split
    · rename_i sink hwrite
      obtain ⟨hsink, hok⟩ := Prod.ext_iff.mp hwrite
      have hroom := (Sink.takes_write_iff htakes bs.length).mp ((Sink.write_eq_ok_iff _ _).mp hok)
      have hcourse : p.Course _ _ := .running (hreads.snoc hread hbs) (by simpa using hroom)
      simp only [List.flatten_concat, List.length_append] at hcourse
      rw [hwritten, hsink] at hcourse
      exact hcourse
    · rename_i sink fault hwrite
      obtain ⟨hsink, hfault⟩ := Prod.ext_iff.mp hwrite
      have hcourse : p.Course _ _ := .unwritten hreads htakes hread hfault
      rw [hwritten, hsink] at hcourse
      exact hcourse

lemma Course.step (h : p.Course q n) : p.Course q.step.1 (n + q.step.2) := by
  have hstays (hresult : q.result.isSome) : p.Course q.step.1 (n + q.step.2) := by
    rw [step_of_result hresult]
    exact h
  cases h with
  | running hreads htakes => exact Course.step_running hreads htakes
  | ended | unread | unwritten => exact hstays rfl

def after (p : Pipe) : Nat → Pipe × Nat
  | 0 => (p, 0)
  | k + 1 => ((p.step.1.after k).1, p.step.2 + (p.step.1.after k).2)

lemma Course.after (h : p.Course q n) (k : Nat) : p.Course (q.after k).1 (n + (q.after k).2) := by
  induction k generalizing q n with
  | zero => exact h
  | succ k ih =>
    have hnext := ih h.step
    rwa [Nat.add_assoc] at hnext

lemma after_of_result (h : p.result.isSome) (k : Nat) : p.after k = (p, 0) := by
  induction k with
  | zero => rfl
  | succ k ih => rw [Pipe.after, step_of_result h, ih, Nat.add_zero]

lemma turns_eq (p : Pipe) :
    p.turns = (p.source.chunks.map fun c => c.length / bufferSize + 1).sum + 1 := by
  have hfold (cs : List Bytes) (n : Nat) :
      cs.foldl (fun n c => n + (c.length / bufferSize + 1)) n =
        (cs.map fun c => c.length / bufferSize + 1).sum + n := by
    induction cs generalizing n with
    | nil => simp
    | cons c cs ih =>
      rw [List.foldl_cons, ih, List.map_cons, List.sum_cons]
      omega
  exact hfold _ 1

lemma read_of_step (h : p.step.1.result = none) :
    ∃ bs, bs ≠ [] ∧ p.source.read bufferSize = (p.step.1.source, .ok bs) := by
  unfold step at h ⊢
  split at h
  · simp_all
  · rename_i hrunning
    rw [if_neg hrunning]
    split at h
    · simp at h
    · simp at h
    · rename_i source bs hbs hread
      split at h
      · rename_i sink hwrite
        exact ⟨bs, hbs, hread⟩
      · simp at h

/-- A step that does not end a pipe brings its end nearer. -/
lemma turns_step_lt (h : p.step.1.result = none) : p.step.1.turns < p.turns := by
  obtain ⟨bs, hbs, hread⟩ := read_of_step h
  rw [turns_eq, turns_eq]
  generalize p.step.1.source = t at hread
  unfold Source.read at hread
  split at hread
  · split at hread <;> simp_all
  · rename_i c rest hs
    obtain ⟨rfl, -⟩ := Prod.mk.inj hread
    rw [hs, List.map_cons, List.sum_cons]
    dsimp only
    by_cases hfits : c.length ≤ bufferSize
    · rw [if_pos hfits]
      have hbuffers := Nat.zero_le (c.length / bufferSize)
      omega
    · rw [if_neg hfits, List.map_cons, List.sum_cons, List.length_drop]
      simp only [bufferSize] at *
      omega

lemma isSome_result_after {k : Nat} (h : p.turns ≤ k) : (p.after k).1.result.isSome := by
  -- Each step either ends the pipe or leaves it fewer turns, and none has fewer than one.
  induction k generalizing p with
  | zero =>
    rw [turns_eq] at h
    omega
  | succ k ih =>
    cases hresult : p.step.1.result with
    | some _ =>
      have hend : p.step.1.result.isSome := by simp [hresult]
      rw [Pipe.after, after_of_result hend]
      exact hend
    | none =>
      have hlt := turns_step_lt hresult
      exact ih (by omega)

end Pipe

end GuestNat
