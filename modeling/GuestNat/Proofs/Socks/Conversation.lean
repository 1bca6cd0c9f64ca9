import GuestNat.Socks.Dialogue
import Mathlib.Tactic.Common

/-!
# Conversations

A dialogue succeeds by hearing some octets and saying others. `Succeeds` is the relation of the
two, without streams and chunks; what is heard tells how much of it there is (`Succeeds.unique`).
A run on a transport succeeds exactly if what can be read begins with such a conversation and the
sink has room for what is said, and then what is left to read is the rest, however the octets
arrive (`run_eq_ok`, `run_of_succeeds`).
-/
namespace GuestNat

namespace Source

lemma octets_of_next? {s s' : Source} {b : UInt8} (h : s.next? = some (b, s')) :
    s.octets = b :: s'.octets := by
  obtain ⟨⟨c, chunks⟩, hhead, heq⟩ := Option.map_eq_some_iff.mp h
  obtain ⟨rfl, rfl⟩ := Prod.mk.inj heq
  have hall := headOctet?_eq s.chunks
  simp only [hhead, Option.map_some] at hall
  by_cases hempty : s.chunks.flatten = []
  · simp [hempty] at hall
  · rw [if_neg hempty] at hall
    exact (Option.some.inj hall).symm

lemma next?_of_octets {s : Source} {b : UInt8} {rest : Bytes} (h : s.octets = b :: rest) :
    ∃ s', s.next? = some (b, s') ∧ s'.octets = rest := by
  have hall := headOctet?_eq s.chunks
  rw [octets] at h
  rw [h, if_neg (List.cons_ne_nil _ _), Option.map_eq_some_iff] at hall
  obtain ⟨⟨c, chunks⟩, hhead, heq⟩ := hall
  obtain ⟨rfl, hrest⟩ := List.cons.inj heq
  exact ⟨{ s with chunks }, by rw [next?, hhead]; rfl, hrest⟩

end Source

namespace Sink

/-- The sink has room for a number of octets. -/
def Takes (s : Sink) (n : Nat) : Prop := ∀ room ∈ s.limit, n ≤ room.1

lemma takes_of_limit_eq_none {s : Sink} (h : s.limit = none) (n : Nat) : s.Takes n := by
  simp [Takes, h]

lemma Takes.of_le {s : Sink} {m n : Nat} (h : s.Takes n) (hle : m ≤ n) : s.Takes m :=
  fun room hroom => Nat.le_trans hle (h room hroom)

lemma write_eq_ok_iff (s : Sink) (bs : Bytes) : (s.write bs).2 = .ok () ↔ s.Takes bs.length := by
  unfold write Takes
  cases s.limit with
  | none => simp
  | some room =>
    simp only [Option.mem_some_iff, forall_eq']
    split <;> simp_all

lemma takes_write_iff {s : Sink} {bs : Bytes} (h : s.Takes bs.length) (n : Nat) :
    (s.write bs).1.Takes n ↔ s.Takes (bs.length + n) := by
  unfold write Takes at *
  cases hlimit : s.limit with
  | none => simp
  | some room =>
    have hroom := h room hlimit
    simp only [Option.mem_some_iff, forall_eq']
    omega

end Sink

namespace Dialogue

/-- A dialogue succeeds when it hears some octets, and says others meanwhile. -/
inductive Succeeds : Dialogue → (heard said : Bytes) → Prop
  | done : Succeeds done [] []
  | write {bytes heard said : Bytes} {next : Dialogue} (h : Succeeds next heard said) :
      Succeeds (write bytes next) heard (bytes ++ said)
  | read {b : UInt8} {heard said : Bytes} {next : UInt8 → Dialogue}
      (h : Succeeds (next b) heard said) : Succeeds (read next) (b :: heard) said

section

variable {heard said rest : Bytes}

@[simp] theorem succeeds_done_iff : Succeeds done heard said ↔ heard = [] ∧ said = [] := by
  constructor
  · rintro ⟨⟩
    exact ⟨rfl, rfl⟩
  · rintro ⟨rfl, rfl⟩
    exact .done

@[simp] theorem not_succeeds_fail (fault : Fault) : ¬Succeeds (fail fault) heard said := nofun

@[simp] theorem succeeds_write_iff {bytes : Bytes} {next : Dialogue} :
    Succeeds (write bytes next) heard said ↔
      ∃ later, said = bytes ++ later ∧ Succeeds next heard later := by
  constructor
  · rintro ⟨⟩
    exact ⟨_, rfl, ‹_›⟩
  · rintro ⟨later, rfl, h⟩
    exact .write h

@[simp] theorem succeeds_read_iff {next : UInt8 → Dialogue} :
    Succeeds (read next) heard said ↔
      ∃ b later, heard = b :: later ∧ Succeeds (next b) later said := by
  constructor
  · rintro ⟨⟩
    exact ⟨_, _, rfl, ‹_›⟩
  · rintro ⟨b, later, rfl, h⟩
    exact .read h

@[simp] theorem succeeds_skip_iff {n : Nat} {next : Dialogue} :
    Succeeds (skip n next) heard said ↔
      ∃ skipped later, heard = skipped ++ later ∧ skipped.length = n ∧
        Succeeds next later said := by
  induction n generalizing heard with
  | zero => simp [skip]
  | succ n ih =>
    simp only [skip, succeeds_read_iff, ih]
    constructor
    · rintro ⟨b, -, rfl, skipped, later, rfl, hlength, h⟩
      exact ⟨b :: skipped, later, rfl, by simp [hlength], h⟩
    · rintro ⟨skipped, later, rfl, hlength, h⟩
      obtain ⟨b, skipped, rfl⟩ := List.exists_cons_of_length_eq_add_one hlength
      exact ⟨b, _, rfl, skipped, later, rfl, Nat.succ.inj hlength, h⟩

/-- What is heard tells where the conversation ends and what was said. -/
lemma Succeeds.unique {d : Dialogue} (h : d.Succeeds heard said) {heard' said' rest' : Bytes}
    (h' : d.Succeeds heard' said') (hsame : heard ++ rest = heard' ++ rest') :
    heard = heard' ∧ said = said' := by
  induction h generalizing heard' said' with
  | done =>
    obtain ⟨rfl, rfl⟩ := succeeds_done_iff.mp h'
    exact ⟨rfl, rfl⟩
  | write _ ih =>
    obtain ⟨later, rfl, hnext⟩ := succeeds_write_iff.mp h'
    obtain ⟨rfl, rfl⟩ := ih hnext hsame
    exact ⟨rfl, rfl⟩
  | read _ ih =>
    obtain ⟨b, later, rfl, hnext⟩ := succeeds_read_iff.mp h'
    obtain ⟨rfl, hbehind⟩ := List.cons.inj hsame
    obtain ⟨rfl, rfl⟩ := ih hnext hbehind
    exact ⟨rfl, rfl⟩

lemma run_eq_ok {d : Dialogue} {t t' : Transport} (h : d.run t = (t', .ok ())) :
    ∃ heard said, d.Succeeds heard said ∧ t.source.octets = heard ++ t'.source.octets ∧
      t.sink.Takes said.length := by
  induction d generalizing t with
  | done =>
    obtain ⟨rfl, -⟩ := Prod.mk.inj h
    exact ⟨[], [], .done, rfl, fun _ _ => Nat.zero_le _⟩
  | fail fault => cases h
  | write bytes next ih =>
    have hroom : t.sink.Takes bytes.length := by
      rw [← Sink.write_eq_ok_iff]
      unfold run at h
      split at h <;> simp_all
    simp only [run] at h
    split at h
    · rename_i sink hwrite
      obtain ⟨heard, said, hsucceeds, hoctets, htakes⟩ := ih h
      refine ⟨heard, bytes ++ said, .write hsucceeds, hoctets, ?_⟩
      rw [List.length_append, ← Sink.takes_write_iff hroom, hwrite]
      exact htakes
    · cases h
  | read next ih =>
    simp only [run] at h
    split at h
    · rename_i b source hnext
      obtain ⟨heard, said, hsucceeds, hoctets, htakes⟩ := ih b h
      refine ⟨b :: heard, said, .read hsucceeds, ?_, htakes⟩
      rw [Source.octets_of_next? hnext, hoctets]
      rfl
    · cases h

/-- A conversation that can be read is heard, and what is behind it is left. -/
lemma run_of_succeeds {d : Dialogue} (h : d.Succeeds heard said) (t : Transport)
    (hoctets : t.source.octets = heard ++ rest) (htakes : t.sink.Takes said.length) :
    ∃ t', d.run t = (t', .ok ()) ∧ t'.source.octets = rest := by
  induction h generalizing t with
  | done => exact ⟨t, rfl, hoctets⟩
  | @write bytes heard said next _ ih =>
    rw [List.length_append] at htakes
    have hroom := htakes.of_le (Nat.le_add_right _ _)
    rw [← Sink.takes_write_iff hroom] at htakes
    have hwrite : t.sink.write bytes = ((t.sink.write bytes).1, .ok ()) := by
      rw [← (Sink.write_eq_ok_iff t.sink bytes).mpr hroom]
    obtain ⟨t', hrun, hrest⟩ := ih { t with sink := (t.sink.write bytes).1 } hoctets htakes
    refine ⟨t', ?_, hrest⟩
    simp only [run]
    rw [hwrite]
    exact hrun
  | @read b heard said next _ ih =>
    obtain ⟨source, hnext, hoctets⟩ := Source.next?_of_octets hoctets
    obtain ⟨t', hrun, hrest⟩ := ih { t with source } hoctets htakes
    refine ⟨t', ?_, hrest⟩
    simp only [run, hnext]
    exact hrun

/-- A run succeeds exactly if what can be read begins with a conversation and there is room for
what is said in it. -/
theorem run_eq_ok_iff {d : Dialogue} {t : Transport} : (d.run t).2 = .ok () ↔
    ∃ heard said rest, d.Succeeds heard said ∧ t.source.octets = heard ++ rest ∧
      t.sink.Takes said.length := by
  constructor
  · intro h
    have hrun : d.run t = ((d.run t).1, .ok ()) := by rw [← h]
    obtain ⟨heard, said, hsucceeds, hoctets, htakes⟩ := run_eq_ok hrun
    exact ⟨heard, said, _, hsucceeds, hoctets, htakes⟩
  · rintro ⟨heard, said, rest, hsucceeds, hoctets, htakes⟩
    obtain ⟨t', hrun, -⟩ := run_of_succeeds hsucceeds t hoctets htakes
    rw [hrun]

theorem octets_run {d : Dialogue} {t : Transport} (h : (d.run t).2 = .ok ())
    (hsucceeds : d.Succeeds heard said) (hoctets : t.source.octets = heard ++ rest) :
    (d.run t).1.source.octets = rest := by
  have hrun : d.run t = ((d.run t).1, .ok ()) := by rw [← h]
  obtain ⟨heard', said', hsucceeds', hoctets', -⟩ := run_eq_ok hrun
  have hsame := hoctets.symm.trans hoctets'
  obtain ⟨rfl, -⟩ := hsucceeds.unique hsucceeds' hsame
  exact (List.append_cancel_left hsame).symm

end

end Dialogue

end GuestNat
