import GuestNat.Proofs.Wire.Survival
import GuestNat.Wire.Udp

/-!
# Which datagrams survive the wire

A datagram has two lengths on the wire, its own and that of its frame, and both wrap. Its frame
reads as the octets that its own length covers (`Datagram.ofFrame?_toFrame`), and a written frame
never reads as a longer one, so a datagram comes back exactly if its payload is at most 65507
octets. The checksum covers what the length covers. Where it is computed as zero, all ones are
written, which say the same in ones' complement (`foldSum_add_ones`); so a written checksum is
never the zero that excuses a datagram from verification (`Datagram.preserved_and_verified`).
-/
namespace GuestNat

lemma foldSum_add_ones {n : Nat} (h : n ≠ 0) : foldSum (n + 65535) = foldSum n := by
  rw [foldSum, foldSum, if_neg h, if_neg (by omega)]
  omega

/-- Octets carry all ones in place of a checksum of zero. -/
lemma sumsToOnes_ones (extra : Nat) (front back : Bytes) (h : front.length % 2 = 0)
    (hzero : checksum extra (front ++ be16 0 ++ back) = 0) :
    sumsToOnes extra (front ++ be16 0xffff ++ back) = true := by
  have hsum := toNat_checksum extra (front ++ be16 0 ++ back)
  have hones : (0xffff : UInt16).toNat = 65535 := rfl
  have hnone : (0 : UInt16).toNat = 0 := rfl
  rw [hzero, wordSum_field _ _ _ h, hnone, Nat.add_zero] at hsum
  have hpos : extra + (wordSum front + wordSum back) ≠ 0 := by
    intro hn
    rw [hn] at hsum
    exact absurd hsum (by decide)
  have hle : foldSum (extra + (wordSum front + wordSum back)) ≤ 65535 := by
    rw [foldSum, if_neg hpos]
    omega
  rw [sumsToOnes, decide_eq_true_eq, wordSum_field _ _ _ h, hones]
  calc foldSum (extra + (wordSum front + 65535 + wordSum back))
      = foldSum (extra + (wordSum front + wordSum back) + 65535) := by congr 1; omega
    _ = foldSum (extra + (wordSum front + wordSum back)) := foldSum_add_ones hpos
    _ = 65535 := by omega

namespace Datagram

variable {verify : Bool} {f : Frame} {m : Datagram}

def toBytes (d : Datagram) : Bytes := d.toFrame.toBytes

def ofBytes? (verify : Bool) (bytes : Bytes) : Option Datagram :=
  Frame.ofBytes? verify bytes >>= ofFrame? verify

def headerFront (d : Datagram) : Bytes :=
  be16 d.source.port ++ be16 d.destination.port ++ be16 d.lengthField

lemma header_eq (d : Datagram) (sum : UInt16) : d.header sum = d.headerFront ++ be16 sum := rfl

lemma take_lengthField (d : Datagram) (sum : UInt16) (h : 8 ≤ d.lengthField.toNat) :
    (d.header sum ++ d.payload).take d.lengthField.toNat =
      d.headerFront ++ be16 sum ++ d.payload.take (d.lengthField.toNat - 8) := by
  have hheader : (d.header sum).length = 8 := rfl
  rw [List.take_append, List.take_of_length_le (by omega), hheader, header_eq]

lemma sumsToOnes_toFrame (d : Datagram) (h : 8 ≤ d.lengthField.toNat) :
    sumsToOnes (pseudo d.source.ip d.destination.ip d.lengthField.toNat)
      (d.toFrame.payload.take d.lengthField.toNat) = true := by
  have heven : d.headerFront.length % 2 = 0 := by simp [headerFront]
  rw [toFrame, take_lengthField d _ h, checksumField, take_lengthField d 0 h]
  split
  · exact sumsToOnes_ones _ _ _ heven ‹_›
  · exact sumsToOnes_checksum _ _ _ heven

/-- No datagram is written as one without a checksum. -/
lemma checksumField_ne_zero (d : Datagram) : d.checksumField ≠ 0 := by
  unfold checksumField
  dsimp only
  split
  · decide
  · assumption

lemma toFrame_payload_cons (d : Datagram) : d.toFrame.payload =
    UInt8.ofNat (d.source.port.toNat / 256) :: UInt8.ofNat (d.source.port.toNat % 256) ::
      UInt8.ofNat (d.destination.port.toNat / 256) ::
      UInt8.ofNat (d.destination.port.toNat % 256) ::
      UInt8.ofNat (d.lengthField.toNat / 256) :: UInt8.ofNat (d.lengthField.toNat % 256) ::
      UInt8.ofNat (d.checksumField.toNat / 256) :: UInt8.ofNat (d.checksumField.toNat % 256) ::
      d.payload :=
  rfl

lemma ofFrame?_cons (verify : Bool) {rest : Bytes} {sp₁ sp₀ dp₁ dp₀ l₁ l₀ c₁ c₀ : UInt8}
    (hf : f.protocol = .udp ∧ f.isFragment = false)
    (h : f.payload = sp₁ :: sp₀ :: dp₁ :: dp₀ :: l₁ :: l₀ :: c₁ :: c₀ :: rest) :
    ofFrame? verify f =
      if 8 ≤ (word16 l₁ l₀).toNat ∧ (word16 l₁ l₀).toNat ≤ f.payload.length ∧
          (verify → word16 c₁ c₀ = 0 ∨
            sumsToOnes (pseudo f.source f.destination (word16 l₁ l₀).toNat)
              (f.payload.take (word16 l₁ l₀).toNat)) then
        some
          { source := ⟨f.source, word16 sp₁ sp₀⟩
            destination := ⟨f.destination, word16 dp₁ dp₀⟩
            payload := rest.take ((word16 l₁ l₀).toNat - 8) }
      else none := by
  rw [ofFrame?, if_neg (by simp [hf])]
  simp only [h]

lemma lengthField_le (d : Datagram) : d.lengthField.toNat ≤ d.toFrame.payload.length := by
  rw [toFrame_payload_cons, lengthField, UInt16.toNat_ofNat']
  simp only [List.length_cons]
  omega

/-- The frame of a datagram reads as what its length covers, unless that is not even the
header. -/
lemma ofFrame?_toFrame (d : Datagram) (verify : Bool) : ofFrame? verify d.toFrame =
    if 8 ≤ d.lengthField.toNat then
      some { d with payload := d.payload.take (d.lengthField.toNat - 8) }
    else none := by
  rw [ofFrame?_cons verify ⟨rfl, rfl⟩ d.toFrame_payload_cons]
  simp only [word16_be16]
  by_cases h : 8 ≤ d.lengthField.toNat
  · rw [if_pos ⟨h, d.lengthField_le, fun _ => .inr (d.sumsToOnes_toFrame h)⟩, if_pos h]
    rfl
  · rw [if_neg (fun hc => h hc.1), if_neg h]

lemma ofBytes?_toBytes (d : Datagram) (verify : Bool)
    (h : 8 + d.payload.length ≤ Frame.maxPayload) : ofBytes? verify d.toBytes = some d := by
  have hfield : d.lengthField.toNat = 8 + d.payload.length := by
    rw [lengthField, UInt16.toNat_ofNat']
    unfold Frame.maxPayload at h
    omega
  have hlength : d.toFrame.payload.length = 8 + d.payload.length := by
    rw [toFrame_payload_cons]
    simp only [List.length_cons]
    omega
  have hframe : Frame.ofBytes? verify d.toBytes = some d.toFrame :=
    Frame.ofBytes?_toBytes d.toFrame verify (by omega) rfl rfl
  rw [ofBytes?, hframe]
  change ofFrame? verify d.toFrame = some d
  rw [ofFrame?_toFrame, hfield, if_pos (by omega), Nat.add_sub_cancel_left, List.take_length]

lemma length_of_ofFrame? (h : ofFrame? verify f = some m) :
    8 + m.payload.length ≤ f.payload.length := by
  unfold ofFrame? at h
  split at h
  · cases h
  · split at h
    · rename_i rest hp
      dsimp only at h
      split at h
      · obtain rfl := Option.some.inj h
        rw [hp]
        simp only [List.length_cons, List.length_take]
        omega
      · cases h
    · cases h

lemma sumsToOnes_of_ofFrame? (d : Datagram) {sum : UInt16} (hsum : sum ≠ 0)
    (hheader : f.payload.take 8 = d.header sum) (h : ofFrame? true f = some m) :
    sumsToOnes (pseudo f.source f.destination d.lengthField.toNat)
      (f.payload.take d.lengthField.toNat) = true := by
  unfold ofFrame? at h
  split at h
  · cases h
  · split at h
    · rename_i sp₁ sp₀ dp₁ dp₀ l₁ l₀ c₁ c₀ rest hp
      have htake : [sp₁, sp₀, dp₁, dp₀, l₁, l₀, c₁, c₀] = d.header sum := by
        rw [← hheader, hp]
        rfl
      simp only [header, be16, List.cons_append, List.nil_append, List.cons.injEq,
        and_true] at htake
      obtain ⟨-, -, -, -, rfl, rfl, rfl, rfl⟩ := htake
      dsimp only at h
      rw [word16_be16, word16_be16] at h
      split at h
      · rename_i hc
        exact (hc.2.2 rfl).resolve_left hsum
      · cases h
    · cases h

/-- A datagram comes back from its octets, both checksums verified, exactly if its payload is at
most 65507 octets. The checksum written for a datagram, whatever its length, is not zero, and a
frame that begins with the header it was written in is only read if what the length covers sums
to all ones. -/
theorem preserved_and_verified :
    (∀ d : Datagram, ofBytes? true d.toBytes = some d ↔ d.payload.length ≤ 65507) ∧
    ∀ d : Datagram, d.checksumField ≠ 0 ∧
      d.toFrame.payload = d.header d.checksumField ++ d.payload ∧
      ∀ f : Frame, f.payload.take 8 = d.header d.checksumField →
        ∀ m, ofFrame? true f = some m →
          sumsToOnes (pseudo f.source f.destination d.lengthField.toNat)
            (f.payload.take d.lengthField.toNat) = true := by
  refine ⟨fun d => ⟨fun h => ?_, fun h => ?_⟩, fun d => ⟨d.checksumField_ne_zero, rfl, ?_⟩⟩
  · obtain ⟨g, hg, hd⟩ := Option.bind_eq_some_iff.mp h
    have hframe := Frame.length_le_of_ofBytes?_toBytes hg
    have hlength := length_of_ofFrame? hd
    unfold Frame.maxPayload at hframe
    omega
  · exact d.ofBytes?_toBytes true (by unfold Frame.maxPayload; omega)
  · intro f hheader m h
    exact sumsToOnes_of_ofFrame? d d.checksumField_ne_zero hheader h

/-- A query whose checksum comes to zero. It is written as all ones, it comes back, and what its
frame was read by is its checksum. -/
theorem preserved_and_verified_ones :
    let d : Datagram :=
      { source := ⟨⟨10, 0, 0, 5⟩, 51000⟩, destination := ⟨⟨1, 1, 1, 1⟩, 53⟩, payload := [44, 102] }
    checksum (pseudo d.source.ip d.destination.ip 10) (d.header 0 ++ d.payload) = 0 ∧
      d.checksumField = 0xffff ∧ ofBytes? true d.toBytes = some d ∧
      sumsToOnes (pseudo d.source.ip d.destination.ip 10) d.toFrame.payload = true := by
  intro d
  have hread : ofFrame? true d.toFrame = some d := by decide +kernel
  have hsum := (preserved_and_verified.2 d).2.2 d.toFrame rfl d hread
  exact ⟨by decide +kernel, by decide +kernel, (preserved_and_verified.1 d).mpr (by decide), hsum⟩

end Datagram

end GuestNat
