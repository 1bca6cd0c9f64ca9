import GuestNat.Proofs.Wire.RoundTrip
import GuestNat.Wire.Icmp
import Mathlib.Data.Nat.ModEq

/-!
# Which errors the checksums of a payload detect

A ones'-complement sum is a residue modulo 65535, so the only words that it cannot tell apart are
all zeros and all ones (`tellsApart_iff`). An error in one aligned word therefore moves the sum
to another residue, wherever the word stands and however long the octets are
(`WordError.not_modEq`), and an octet with one bit flipped is such an error
(`BitError.wordError`). A segment is covered with its addresses, an ICMP message without them. So
neither is read after such an error in what is covered (`Frame.corruption_detected`), even where
the error moves the end of the header.
-/
namespace GuestNat

/-- Two words that are not the same in ones' complement, where all zeros and all ones are. -/
def TellsApart (w w' : UInt16) : Prop :=
  w ≠ w' ∧ ¬(w = 0 ∧ w' = 0xffff) ∧ ¬(w = 0xffff ∧ w' = 0)

instance (w w' : UInt16) : Decidable (TellsApart w w') := inferInstanceAs (Decidable (_ ∧ _))

/-- One aligned word of the octets has another value. A last odd octet is the high half of a
word. -/
inductive WordError : (xs ys : Bytes) → Prop
  | word {hi lo hi' lo' : UInt8} (rest : Bytes) (h : TellsApart (word16 hi lo) (word16 hi' lo')) :
      WordError (hi :: lo :: rest) (hi' :: lo' :: rest)
  | odd {hi hi' : UInt8} (h : TellsApart (word16 hi 0) (word16 hi' 0)) : WordError [hi] [hi']
  | behind (hi lo : UInt8) {xs ys : Bytes} (h : WordError xs ys) :
      WordError (hi :: lo :: xs) (hi :: lo :: ys)

/-- The octets with one bit of one of them flipped. -/
def flipBit (bs : Bytes) (i k : Nat) : Bytes := bs.modify i fun b => b ^^^ UInt8.ofNat (2 ^ k)

/-- One bit of the octets has another value. -/
def BitError (xs ys : Bytes) : Prop := ∃ i < xs.length, ∃ k < 8, ys = flipBit xs i k

/-- A frame with an error in its source, its destination or its payload. -/
inductive Frame.Corrupted (error : Bytes → Bytes → Prop) (f : Frame) : Frame → Prop
  | source {ip : Ipv4} (h : error f.source.octets ip.octets) :
      Corrupted error f { f with source := ip }
  | destination {ip : Ipv4} (h : error f.destination.octets ip.octets) :
      Corrupted error f { f with destination := ip }
  | payload {bytes : Bytes} (h : error f.payload bytes) :
      Corrupted error f { f with payload := bytes }

section Words

variable {w w' : UInt16} {xs ys : Bytes} {extra extra' : Nat}

lemma tellsApart_iff : TellsApart w w' ↔ ¬w.toNat ≡ w'.toNat [MOD 65535] := by
  have hzero : (0 : UInt16).toNat = 0 := rfl
  have hones : (0xffff : UInt16).toNat = 65535 := rfl
  have h := w.toNat_lt
  have h' := w'.toNat_lt
  simp only [TellsApart, Nat.ModEq, ne_eq, ← UInt16.toNat_inj, hzero, hones]
  omega

/-- An error in a word moves the sum to another residue. -/
lemma WordError.not_modEq (h : WordError xs ys) : ¬wordSum xs ≡ wordSum ys [MOD 65535] := by
  induction h with
  | word rest h =>
    rw [tellsApart_iff, toNat_word16, toNat_word16] at h
    rw [wordSum_cons_cons, wordSum_cons_cons]
    exact fun he => h (he.add_right_cancel' _)
  | odd h =>
    rw [tellsApart_iff, toNat_word16, toNat_word16] at h
    rw [wordSum_singleton, wordSum_singleton]
    exact fun he => h (he.add_right _)
  | behind hi lo _ ih =>
    rw [wordSum_cons_cons, wordSum_cons_cons]
    exact fun he => ih (he.add_left_cancel' _)

lemma WordError.length_eq (h : WordError xs ys) : ys.length = xs.length := by
  induction h with
  | word | odd => rfl
  | behind _ _ _ ih => simp only [List.length_cons, ih]

/-- Octets carry their checksum if the sum is a multiple of 65535, but not the empty one. -/
lemma sumsToOnes_iff : sumsToOnes extra xs = true ↔
    extra + wordSum xs ≠ 0 ∧ extra + wordSum xs ≡ 0 [MOD 65535] := by
  rw [sumsToOnes, decide_eq_true_eq, foldSum, Nat.ModEq]
  split <;> omega

lemma sumsToOnes_eq_false (h : sumsToOnes extra xs = true)
    (hne : ¬extra + wordSum xs ≡ extra' + wordSum ys [MOD 65535]) :
    sumsToOnes extra' ys = false := by
  rw [Bool.eq_false_iff, ne_eq, sumsToOnes_iff]
  exact fun h' => hne ((sumsToOnes_iff.mp h).2.trans h'.2.symm)

lemma toNat_xor_two_pow (b : UInt8) {k : Nat} (hk : k < 8) :
    (b ^^^ UInt8.ofNat (2 ^ k)).toNat = b.toNat + 2 ^ k ∨
      b.toNat = (b ^^^ UInt8.ofNat (2 ^ k)).toNat + 2 ^ k := by
  have hall : ∀ n < 256, ∀ k < 8, n ^^^ 2 ^ k = n + 2 ^ k ∨ n = (n ^^^ 2 ^ k) + 2 ^ k := by
    decide +kernel
  have hpow : (UInt8.ofNat (2 ^ k)).toNat = 2 ^ k := by
    rw [UInt8.toNat_ofNat']
    exact Nat.mod_eq_of_lt (Nat.pow_lt_pow_right (by decide) hk)
  rw [UInt8.toNat_xor, hpow]
  exact hall b.toNat b.toNat_lt k hk

/-- Words are told apart if an octet of them differs by one bit. -/
lemma tellsApart_flip (b c : UInt8) {k : Nat} (hk : k < 8) :
    TellsApart (word16 b c) (word16 (b ^^^ UInt8.ofNat (2 ^ k)) c) ∧
      TellsApart (word16 c b) (word16 c (b ^^^ UInt8.ofNat (2 ^ k))) := by
  have hpos : 0 < 2 ^ k := Nat.two_pow_pos k
  have hle : 2 ^ k ≤ 2 ^ 7 := Nat.pow_le_pow_right (by decide) (by omega)
  have hb := b.toNat_lt
  have hb' := (b ^^^ UInt8.ofNat (2 ^ k)).toNat_lt
  have hc := c.toNat_lt
  have hflip := toNat_xor_two_pow b hk
  simp only [tellsApart_iff, toNat_word16, Nat.ModEq]
  omega

lemma wordError_flipBit {k : Nat} (hk : k < 8) (xs : Bytes) (i : Nat) (hi : i < xs.length) :
    WordError xs (flipBit xs i k) := by
  match xs, i, hi with
  | [b], 0, _ => exact .odd (tellsApart_flip b 0 hk).1
  | b :: c :: rest, 0, _ => exact .word rest (tellsApart_flip b c hk).1
  | b :: c :: rest, 1, _ => exact .word rest (tellsApart_flip c b hk).2
  | b :: c :: rest, i + 2, hi =>
    exact .behind b c (wordError_flipBit hk rest i (by simpa using hi))

lemma BitError.wordError (h : BitError xs ys) : WordError xs ys := by
  obtain ⟨i, hi, k, hk, rfl⟩ := h
  exact wordError_flipBit hk xs i hi

end Words

/-- The pseudo header is covered by the sums of its parts. -/
lemma pseudoSum_eq (source destination : Ipv4) (protocol : UInt8) (length : Nat) :
    pseudoSum source destination protocol length = wordSum source.octets +
      (wordSum destination.octets + wordSum ([0, protocol] ++ be16 (UInt16.ofNat length))) := by
  have heven : ∀ ip : Ipv4, ip.octets.length % 2 = 0 := fun ip => by rw [ip.length_octets]
  rw [pseudoSum, List.append_assoc, List.append_assoc, wordSum_append _ _ (heven source),
    wordSum_append _ _ (heven destination)]

namespace Frame

variable {error error' : Bytes → Bytes → Prop} {f f' : Frame}

lemma Corrupted.mono (h : f.Corrupted error f') (hle : ∀ xs ys, error xs ys → error' xs ys) :
    f.Corrupted error' f' := by
  cases h with
  | source h => exact .source (hle _ _ h)
  | destination h => exact .destination (hle _ _ h)
  | payload h => exact .payload (hle _ _ h)

lemma segment_eq_none
    (h : sumsToOnes (Segment.pseudo f.source f.destination f.payload.length) f.payload = false) :
    Segment.ofFrame? true f = none := by
  unfold Segment.ofFrame?
  split
  · rfl
  · split
    · simp [h]
    · rfl

lemma sumsToOnes_of_segment {s : Segment} (h : Segment.ofFrame? true f = some s) :
    sumsToOnes (Segment.pseudo f.source f.destination f.payload.length) f.payload = true := by
  by_contra hsum
  rw [segment_eq_none (Bool.eq_false_iff.mpr hsum)] at h
  cases h

lemma message_eq_none (h : sumsToOnes 0 f.payload = false) :
    IcmpMessage.ofFrame? true f = none := by
  unfold IcmpMessage.ofFrame?
  split
  · rfl
  · split
    · simp [h]
    · rfl

lemma sumsToOnes_of_message {m : IcmpMessage} (h : IcmpMessage.ofFrame? true f = some m) :
    sumsToOnes 0 f.payload = true := by
  by_contra hsum
  rw [message_eq_none (Bool.eq_false_iff.mpr hsum)] at h
  cases h

lemma Corrupted.segment_eq_none {s : Segment} (h : f.Corrupted WordError f')
    (hs : Segment.ofFrame? true f = some s) : Segment.ofFrame? true f' = none := by
  apply Frame.segment_eq_none
  refine sumsToOnes_eq_false (sumsToOnes_of_segment hs) ?_
  cases h with
  | source h =>
    rw [Segment.pseudo, Segment.pseudo, pseudoSum_eq, pseudoSum_eq]
    exact fun he => h.not_modEq ((he.add_right_cancel' _).add_right_cancel' _)
  | destination h =>
    rw [Segment.pseudo, Segment.pseudo, pseudoSum_eq, pseudoSum_eq]
    exact fun he =>
      h.not_modEq (((he.add_right_cancel' _).add_left_cancel' _).add_right_cancel' _)
  | payload h =>
    rw [h.length_eq]
    exact fun he => h.not_modEq (he.add_left_cancel' _)

lemma message_eq_none_of_wordError {m : IcmpMessage} {bytes : Bytes}
    (h : WordError f.payload bytes) (hm : IcmpMessage.ofFrame? true f = some m) :
    IcmpMessage.ofFrame? true { f with payload := bytes } = none :=
  message_eq_none <| sumsToOnes_eq_false (sumsToOnes_of_message hm) fun he =>
    h.not_modEq (he.add_left_cancel' _)

/-- A frame whose segment is read with its checksum verified has no segment any more after one
aligned word of its source, its destination or its payload has changed, other than from all zeros
to all ones or back; and one whose ICMP message is read has no message after one word of its
payload has changed so. In particular no single bit changes unnoticed. -/
theorem corruption_detected (f : Frame) :
    (∀ s f', Segment.ofFrame? true f = some s →
      f.Corrupted WordError f' ∨ f.Corrupted BitError f' → Segment.ofFrame? true f' = none) ∧
    (∀ m bytes, IcmpMessage.ofFrame? true f = some m →
      WordError f.payload bytes ∨ BitError f.payload bytes →
        IcmpMessage.ofFrame? true { f with payload := bytes } = none) := by
  constructor
  · rintro s f' hs (h | h)
    · exact h.segment_eq_none hs
    · exact (h.mono fun _ _ => BitError.wordError).segment_eq_none hs
  · rintro m bytes hm (h | h)
    · exact message_eq_none_of_wordError h hm
    · exact message_eq_none_of_wordError h.wordError hm

/-- A request whose data offset loses a bit, so that its options would be payload, and an echo
whose last octet, the only one of its word, changes. -/
theorem corruption_detected_offset :
    let s : Segment :=
      { source := ⟨⟨10, 0, 0, 5⟩, 51000⟩, destination := ⟨⟨93, 184, 216, 34⟩, 80⟩
        flags := { syn := true }, options := [2, 4, 5, 180], payload := [104, 105] }
    let f := s.toFrame
    let echo : Frame :=
      { source := ⟨10, 0, 0, 5⟩, destination := ⟨1, 1, 1, 1⟩, protocol := .icmp
        payload := [8, 0, 102, 248, 0, 1, 0, 6, 145] }
    let echo' := { echo with payload := [8, 0, 102, 248, 0, 1, 0, 6, 144] }
    (Segment.ofFrame? true f = some s ∧
      Segment.ofFrame? true { f with payload := flipBit f.payload 12 4 } = none) ∧
    (IcmpMessage.ofFrame? true echo).isSome ∧ IcmpMessage.ofFrame? true echo' = none := by
  intro s f echo echo'
  have hs : Segment.ofFrame? true f = some s := by decide +kernel
  have hbit : BitError f.payload (flipBit f.payload 12 4) :=
    ⟨12, by decide +kernel, 4, by decide, rfl⟩
  have hm : (IcmpMessage.ofFrame? true echo).isSome := by decide +kernel
  have hlast : WordError echo.payload echo'.payload :=
    .behind _ _ (.behind _ _ (.behind _ _ (.behind _ _ (.odd (by decide)))))
  refine ⟨⟨hs, (corruption_detected f).1 s _ hs (.inr (.payload hbit))⟩, hm, ?_⟩
  exact (corruption_detected echo).2 _ _ (Option.some_get hm).symm (.inl hlast)

/-- Urgent data that was at all ones is at zero, and the segment is still read. -/
example :
    let s : Segment :=
      { source := ⟨⟨10, 0, 0, 5⟩, 51000⟩, destination := ⟨⟨93, 184, 216, 34⟩, 80⟩
        flags := { urg := true }, urgent := 0xffff }
    let f := s.toFrame
    Segment.ofFrame? true { f with payload := f.payload.take 18 ++ [0, 0] } =
      some { s with urgent := 0 } := by decide +kernel

end Frame

end GuestNat
