import GuestNat.Port.HostTable
import Mathlib.Data.List.Forall2
import Mathlib.Data.Nat.Digits.Defs
import Mathlib.Tactic.Ring

/-!
# Hexadecimal numbers

A number is written in digits of either case, most significant first, with a plus sign in front or
without. Reading gives its value if it lies below the limit, and gives nothing for any other text
(`readHexBelow_eq_some_iff`).
-/
namespace GuestNat

/-- A character stands for a hexadecimal digit, in either case. -/
def ShowsDigit (c : Char) (d : Nat) : Prop := d < 16 ∧ (c = hexDigit d ∨ c = (hexDigit d).toUpper)

instance (c : Char) (d : Nat) : Decidable (ShowsDigit c d) :=
  inferInstanceAs (Decidable (d < 16 ∧ (c = hexDigit d ∨ c = (hexDigit d).toUpper)))

/-- A text is a hexadecimal number: at least one digit, and a plus sign in front or none. -/
def HexNumber (cs : List Char) (n : Nat) : Prop :=
  ∃ digits ds, (cs = digits ∨ cs = '+' :: digits) ∧ digits ≠ [] ∧
    List.Forall₂ ShowsDigit digits ds ∧ n = Nat.ofDigits 16 ds.reverse

/-- The value of a digit is read from the characters that show it, and from no others. -/
theorem digitValue?_eq_some_iff {c : Char} {d : Nat} :
    digitValue? 16 c = some d ↔ ShowsDigit c d := by
  constructor
  · intro h
    -- The last digit is the letter f, so there are few characters to try.
    have hfew : ∀ n < 103, ∀ d ∈ digitValue? 16 (Char.ofNat n), ShowsDigit (Char.ofNat n) d := by
      decide
    have hc : c.toNat < 103 := by
      by_contra hc
      have hdecimal : ¬(48 ≤ c.toNat ∧ c.toNat ≤ 57) := by omega
      have hlower : ¬(97 ≤ c.toNat ∧ c.toNat ≤ 102) := by omega
      have hupper : ¬(65 ≤ c.toNat ∧ c.toNat ≤ 70) := by omega
      simp [digitValue?, hdecimal, hlower, hupper] at h
    rw [← Char.ofNat_toNat c] at h ⊢
    exact hfew c.toNat hc d h
  · have hlower : ∀ d < 16, digitValue? 16 (hexDigit d) = some d := by decide
    have hupper : ∀ d < 16, digitValue? 16 (hexDigit d).toUpper = some d := by decide
    rintro ⟨hd, rfl | rfl⟩
    · exact hlower d hd
    · exact hupper d hd

lemma digitsValue_eq {cs : List Char} {ds : List Nat} (h : List.Forall₂ ShowsDigit cs ds) :
    digitsValue 16 cs = Nat.ofDigits 16 ds.reverse := by
  suffices hfold : ∀ n, cs.foldl (fun n c => n * 16 + (digitValue? 16 c).getD 0) n =
      n * 16 ^ ds.length + Nat.ofDigits 16 ds.reverse by
    have hzero := hfold 0
    rwa [Nat.zero_mul, Nat.zero_add] at hzero
  induction h with
  | nil => simp
  | @cons c d cs ds hc hrest ih =>
    intro n
    rw [List.foldl_cons, ih, digitValue?_eq_some_iff.mpr hc, Option.getD_some,
      Nat.ofDigits_reverse_cons, List.length_cons]
    ring

lemma all_isSome_iff {cs : List Char} :
    (cs.all fun c => (digitValue? 16 c).isSome) = true ↔ ∃ ds, List.Forall₂ ShowsDigit cs ds := by
  induction cs with
  | nil => exact ⟨fun _ => ⟨[], .nil⟩, fun _ => rfl⟩
  | cons c cs ih =>
    rw [List.all_cons, Bool.and_eq_true, ih, Option.isSome_iff_exists]
    constructor
    · rintro ⟨⟨d, hd⟩, ds, hds⟩
      exact ⟨d :: ds, .cons (digitValue?_eq_some_iff.mp hd) hds⟩
    · rintro ⟨_, hds⟩
      cases hds with
      | cons hd hrest => exact ⟨⟨_, digitValue?_eq_some_iff.mpr hd⟩, _, hrest⟩

lemma not_mem_of_digits {c : Char} {cs : List Char} {ds : List Nat}
    (h : List.Forall₂ ShowsDigit cs ds) (hc : digitValue? 16 c = none) : c ∉ cs := by
  intro hmem
  have hdigit := List.all_eq_true.mp (all_isSome_iff.mpr ⟨ds, h⟩) c hmem
  rw [hc] at hdigit
  cases hdigit

lemma readHexBelow_eq {limit : Nat} {cs digits : List Char}
    (hcs : cs = digits ∧ digits.head? ≠ some '+' ∨ cs = '+' :: digits) :
    readHexBelow limit cs =
      if digits = [] ∨ !digits.all fun c => (digitValue? 16 c).isSome then none
      else if digitsValue 16 digits < limit then some (digitsValue 16 digits) else none := by
  rcases hcs with ⟨rfl, hsign⟩ | rfl
  · unfold readHexBelow
    dsimp only
    split
    · exact absurd rfl hsign
    · rfl
  · rfl

lemma readHexBelow_of_hexNumber {limit n : Nat} {cs : List Char} (h : HexNumber cs n) :
    readHexBelow limit cs = if n < limit then some n else none := by
  obtain ⟨digits, ds, hcs, hne, hds, rfl⟩ := h
  have hsign : digits.head? ≠ some '+' := fun hhead =>
    not_mem_of_digits hds (by decide) (List.mem_of_mem_head? hhead)
  have hall := all_isSome_iff.mpr ⟨ds, hds⟩
  rw [readHexBelow_eq (hcs.imp_left fun hcs => ⟨hcs, hsign⟩), if_neg (by simp [hne, hall]),
    digitsValue_eq hds]

lemma hexNumber_of_readHexBelow {limit n : Nat} {cs : List Char}
    (h : readHexBelow limit cs = some n) : HexNumber cs n ∧ n < limit := by
  obtain ⟨digits, hcs⟩ : ∃ digits,
      cs = digits ∧ digits.head? ≠ some '+' ∨ cs = '+' :: digits := by
    by_cases hsign : cs.head? = some '+'
    · obtain ⟨digits, rfl⟩ := List.head?_eq_some_iff.mp hsign
      exact ⟨digits, .inr rfl⟩
    · exact ⟨cs, .inl ⟨rfl, hsign⟩⟩
  rw [readHexBelow_eq hcs] at h
  split_ifs at h with hbad hlt
  obtain rfl := Option.some.inj h
  simp only [Bool.not_eq_true', not_or, Bool.not_eq_false] at hbad
  obtain ⟨ds, hds⟩ := all_isSome_iff.mp hbad.2
  exact ⟨⟨digits, ds, hcs.imp_left (·.1), hbad.1, hds, digitsValue_eq hds⟩, hlt⟩

/-- What is read is a number below the limit, and every such number is read. -/
theorem readHexBelow_eq_some_iff {limit n : Nat} {cs : List Char} :
    readHexBelow limit cs = some n ↔ HexNumber cs n ∧ n < limit := by
  constructor
  · exact hexNumber_of_readHexBelow
  · rintro ⟨hn, hlt⟩
    rw [readHexBelow_of_hexNumber hn, if_pos hlt]

/-- Nothing is read of what is no number, or too large a number. -/
theorem readHexBelow_eq_none_iff {limit : Nat} {cs : List Char} :
    readHexBelow limit cs = none ↔
      (∀ n, ¬HexNumber cs n) ∨ ∃ n, HexNumber cs n ∧ limit ≤ n := by
  constructor
  · intro hnone
    refine or_iff_not_imp_left.mpr fun hnumber => ?_
    obtain ⟨n, hn⟩ := not_forall_not.mp hnumber
    rw [readHexBelow_of_hexNumber hn] at hnone
    split_ifs at hnone with hlt
    exact ⟨n, hn, Nat.not_lt.mp hlt⟩
  · rintro (hnumber | ⟨n, hn, hle⟩)
    · exact Option.eq_none_iff_forall_ne_some.mpr fun n hn =>
        hnumber n (hexNumber_of_readHexBelow hn).1
    · rw [readHexBelow_of_hexNumber hn, if_neg (Nat.not_lt.mpr hle)]

end GuestNat
