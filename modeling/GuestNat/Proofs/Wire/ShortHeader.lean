import GuestNat.Proofs.Wire.Survival

/-!
# Frames with a short header

The payload of a frame is whatever its total length leaves behind the header, and a written frame
always has the plain header of twenty octets. A frame that states at least that much of a header
therefore has room for its payload in the total length when it is written again. One that states
less is read as well, with the last octets of its addresses for the first of its payload, and such
a payload can be longer than any that can be written: then the total length wraps to less than the
header, and what is written is not read (`Frame.read_again_iff`).
-/
namespace GuestNat.Frame

/-- The length of the header as a frame states it. -/
def statedHeader (bytes : Bytes) : Nat := (bytes.headD 0).toNat % 16 * 4

/-- The total length as a frame states it. -/
def statedTotal (bytes : Bytes) : Nat := (word16 (bytes.getD 2 0) (bytes.getD 3 0)).toNat

variable {verify : Bool} {bytes : Bytes} {f : Frame}

lemma payload_of_ofBytes? (h : ofBytes? verify bytes = some f) :
    statedHeader bytes ≤ statedTotal bytes ∧
      f.payload.length + statedHeader bytes = statedTotal bytes := by
  unfold ofBytes? at h
  split at h
  · dsimp only at h
    split at h
    · rename_i hc
      obtain rfl := Option.some.inj h
      refine ⟨hc.2.1, ?_⟩
      change (((_ : Bytes).take _).drop _).length + statedHeader _ = _
      rw [List.length_drop, List.length_take, Nat.min_eq_left hc.2.2.1]
      exact Nat.sub_add_cancel hc.2.1
    · cases h
  · cases h

lemma ofBytes?_toBytes_of_read (h : ofBytes? verify bytes = some f)
    (hlength : f.payload.length ≤ maxPayload) : ofBytes? true f.toBytes = some f :=
  have hf := ofBytes?_eq_some h
  f.ofBytes?_toBytes true hlength hf.1 hf.2

/-- The total length of a payload that is too long for a frame, but not for the field, wraps to
less than the header. -/
lemma ofBytes?_toBytes_of_lt (hlt : maxPayload < f.payload.length)
    (hfield : f.payload.length < 65536) (verify : Bool) : ofBytes? verify f.toBytes = none := by
  have htotal : (UInt16.ofNat (20 + f.payload.length)).toNat = f.payload.length - 65516 := by
    rw [UInt16.toNat_ofNat']
    unfold maxPayload at hlt
    omega
  have hwords : (0x45 : UInt8).toNat % 16 * 4 = 20 := rfl
  obtain ⟨c₁, c₀, hcons⟩ := f.toBytes_cons
  rw [ofBytes?_cons verify hcons, word16_be16, hwords, htotal]
  exact if_neg fun hc => by omega

/-- A frame that was read, its checksum verified or not, has a payload of at most 65515 octets and
comes back from its octets with the checksum verified, if the header that it stated has at least
twenty octets. In general that holds exactly if its total length is at most 65515 more than the
length of its header; otherwise what is written for it is not read at all. -/
theorem read_again_iff (h : ofBytes? verify bytes = some f) :
    (20 ≤ statedHeader bytes → f.payload.length ≤ 65515 ∧ ofBytes? true f.toBytes = some f) ∧
    (f.payload.length ≤ 65515 ∧ ofBytes? true f.toBytes = some f ↔
      statedTotal bytes ≤ statedHeader bytes + 65515) ∧
    (statedHeader bytes + 65515 < statedTotal bytes →
      ∀ verify', ofBytes? verify' f.toBytes = none) := by
  have hlength := (payload_of_ofBytes? h).2
  have hfield : statedTotal bytes < 65536 := UInt16.toNat_lt _
  have hback : f.payload.length ≤ 65515 → ofBytes? true f.toBytes = some f :=
    ofBytes?_toBytes_of_read h
  refine ⟨fun hheader => ?_, ⟨fun hread => ?_, fun hroom => ?_⟩, fun hlong verify' => ?_⟩
  · have hle : f.payload.length ≤ 65515 := by omega
    exact ⟨hle, hback hle⟩
  · have hle := hread.1
    omega
  · have hle : f.payload.length ≤ 65515 := by omega
    exact ⟨hle, hback hle⟩
  · exact ofBytes?_toBytes_of_lt (by unfold maxPayload; omega) (by omega) verify'

/-- A frame with a word of options, and with octets behind its total length, comes back without
either. -/
theorem read_again_iff_options :
    let bytes : Bytes :=
      [0x46, 0, 0, 26, 0, 7, 0, 0, 64, 17, 165, 232, 10, 0, 0, 5, 93, 184, 216, 34, 148, 4, 0, 0,
        104, 105, 255, 255]
    let f : Frame :=
      { source := ⟨10, 0, 0, 5⟩, destination := ⟨93, 184, 216, 34⟩, protocol := .udp
        identification := 7, payload := [104, 105] }
    ofBytes? true bytes = some f ∧ ofBytes? true f.toBytes = some f := by
  intro bytes f
  have h : ofBytes? true bytes = some f := by decide +kernel
  exact ⟨h, ((read_again_iff h).1 (by decide)).2⟩

/-- A frame of the greatest total length that states a header of four words is read, its checksum
verified. Its payload is longer than any that can be written, and it does not come back. -/
theorem short_header_unwritable :
    let bytes : Bytes :=
      [0x44, 0, 255, 255, 0, 0, 0, 0, 64, 6, 113, 244, 10, 0, 0, 5, 93, 184, 216, 34] ++
        List.replicate 65515 0
    ∃ f, ofBytes? true bytes = some f ∧ 65515 < f.payload.length ∧
      ofBytes? true f.toBytes ≠ some f := by
  intro bytes
  have hlength : bytes.length = 65535 := by
    rw [List.length_append, List.length_replicate]
    rfl
  have htotal : (word16 255 255).toNat = 65535 := rfl
  have hsum : sumsToOnes 0 (bytes.take 16) = true := by
    rw [List.take_append_of_le_length (by decide)]
    decide +kernel
  obtain ⟨f, hread⟩ : ∃ f, ofBytes? true bytes = some f := by
    rw [ofBytes?_cons true (rfl : bytes = _), htotal, hlength]
    exact ⟨_, if_pos ⟨rfl, by decide, Nat.le_refl _, fun _ => hsum⟩⟩
  have hpayload := (payload_of_ofBytes? hread).2
  have hheader : statedHeader bytes = 16 := by decide
  have hstated : statedTotal bytes = 65535 := htotal
  have hnone := ofBytes?_toBytes_of_lt (f := f) (by unfold maxPayload; omega) (by omega) true
  refine ⟨f, hread, by omega, ?_⟩
  rw [hnone]
  nofun

end GuestNat.Frame
