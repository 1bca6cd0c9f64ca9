import GuestNat.Wire.Tcp
import Mathlib.Order.Basic

/-!
# Writing and reading on the wire

What is written with its checksum is read back with that checksum verified. The
checksum is a ones'-complement sum, so a field that was zero when the sum was taken
completes it to all ones (`foldSum_add_complement`). A frame is read back if its
payload fits its length field and its offset is in units of eight octets
(`Frame.ofBytes?_toBytes`); a segment, if its options fill whole words that the
header has room for (`Segment.ofBytes?_toBytes`). Every segment that is read has such
options, so it can be written again.
-/
namespace GuestNat

/-- The complement of a sum completes it to all ones. -/
theorem foldSum_add_complement (n : Nat) : foldSum (n + (65535 - foldSum n)) = 65535 := by
  by_cases hn : n = 0
  · subst hn
    rfl
  · simp only [foldSum, if_neg hn]
    rw [if_neg (by omega)]
    omega

@[simp] theorem toNat_checksum (extra : Nat) (bs : Bytes) :
    (checksum extra bs).toNat = 65535 - foldSum (extra + wordSum bs) := by
  rw [checksum, UInt16.toNat_ofNat']
  omega

@[simp] theorem wordSum_be16 (w : UInt16) : wordSum (be16 w) = w.toNat := by
  have h := w.toNat_lt
  simp only [be16, wordSum_cons_cons, wordSum_nil, UInt8.toNat_ofNat']
  omega

lemma wordSum_field (front back : Bytes) (w : UInt16) (h : front.length % 2 = 0) :
    wordSum (front ++ be16 w ++ back) = wordSum front + w.toNat + wordSum back := by
  have heven : (front ++ be16 w).length % 2 = 0 := by
    rw [List.length_append, length_be16]
    omega
  rw [wordSum_append _ _ heven, wordSum_append _ _ h, wordSum_be16]

/-- Octets carry their checksum if the field was zero when it was computed. `front` and
`back` are what stands before and behind the field. -/
lemma sumsToOnes_checksum (extra : Nat) (front back : Bytes) (h : front.length % 2 = 0) :
    sumsToOnes extra
      (front ++ be16 (checksum extra (front ++ be16 0 ++ back)) ++ back) = true := by
  have hzero : (0 : UInt16).toNat = 0 := rfl
  rw [sumsToOnes, decide_eq_true_eq, wordSum_field _ _ _ h, toNat_checksum,
    wordSum_field _ _ _ h, hzero]
  have hc := foldSum_add_complement (extra + (wordSum front + 0 + wordSum back))
  rw [← hc]
  congr 1
  omega

namespace Frame

def headerFront (f : Frame) : Bytes :=
  [0x45, 0] ++ be16 (UInt16.ofNat (20 + f.payload.length)) ++ be16 f.identification ++
    be16 f.fragmentWord ++ [f.ttl, f.protocol.number]

lemma header_eq (f : Frame) (sum : UInt16) :
    f.header sum = f.headerFront ++ be16 sum ++ (f.source.octets ++ f.destination.octets) := rfl

lemma sumsToOnes_header (f : Frame) : sumsToOnes 0 (f.header (checksum 0 (f.header 0))) = true := by
  rw [header_eq, header_eq]
  exact sumsToOnes_checksum 0 _ _ (by simp [headerFront])

lemma toNat_fragmentWord (f : Frame) : f.fragmentWord.toNat =
    (if f.dontFragment then 16384 else 0) + (if f.moreFragments then 8192 else 0) +
      f.offset.toNat / 8 := by
  have h := f.offset.toNat_lt
  rw [fragmentWord, UInt16.toNat_ofNat']
  split <;> split <;> omega

lemma ofBytes?_cons (verify : Bool) {bytes rest : Bytes}
    {v t l₁ l₀ i₁ i₀ f₁ f₀ ttl p c₁ c₀ s₃ s₂ s₁ s₀ d₃ d₂ d₁ d₀ : UInt8}
    (h : bytes = v :: t :: l₁ :: l₀ :: i₁ :: i₀ :: f₁ :: f₀ :: ttl :: p :: c₁ :: c₀ ::
      s₃ :: s₂ :: s₁ :: s₀ :: d₃ :: d₂ :: d₁ :: d₀ :: rest) :
    ofBytes? verify bytes =
      if v.toNat / 16 = 4 ∧ v.toNat % 16 * 4 ≤ (word16 l₁ l₀).toNat ∧
          (word16 l₁ l₀).toNat ≤ bytes.length ∧
          (verify → sumsToOnes 0 (bytes.take (v.toNat % 16 * 4))) then
        some
          { source := ⟨s₃, s₂, s₁, s₀⟩
            destination := ⟨d₃, d₂, d₁, d₀⟩
            protocol := Protocol.ofNumber p
            identification := word16 i₁ i₀
            offset := UInt16.ofNat ((word16 f₁ f₀).toNat % 8192 * 8)
            moreFragments := (word16 f₁ f₀).toNat / 8192 % 2 = 1
            dontFragment := (word16 f₁ f₀).toNat / 16384 % 2 = 1
            ttl := ttl
            payload := (bytes.take (word16 l₁ l₀).toNat).drop (v.toNat % 16 * 4) }
      else none := by
  subst h
  rfl

lemma toBytes_cons (f : Frame) : ∃ c₁ c₀, f.toBytes =
    0x45 :: 0 :: UInt8.ofNat ((UInt16.ofNat (20 + f.payload.length)).toNat / 256) ::
      UInt8.ofNat ((UInt16.ofNat (20 + f.payload.length)).toNat % 256) ::
      UInt8.ofNat (f.identification.toNat / 256) :: UInt8.ofNat (f.identification.toNat % 256) ::
      UInt8.ofNat (f.fragmentWord.toNat / 256) :: UInt8.ofNat (f.fragmentWord.toNat % 256) ::
      f.ttl :: f.protocol.number :: c₁ :: c₀ ::
      f.source.a :: f.source.b :: f.source.c :: f.source.d ::
      f.destination.a :: f.destination.b :: f.destination.c :: f.destination.d :: f.payload :=
  ⟨_, _, rfl⟩

theorem ofBytes?_toBytes (f : Frame) (verify : Bool) (hlength : f.payload.length ≤ maxPayload)
    (hoffset : f.offset.toNat % 8 = 0)
    (hprotocol : Protocol.ofNumber f.protocol.number = f.protocol) :
    ofBytes? verify f.toBytes = some f := by
  have htake : f.toBytes.take 20 = f.header (checksum 0 (f.header 0)) :=
    List.take_left' (length_header f _)
  have hdrop : f.toBytes.drop 20 = f.payload := List.drop_left' (length_header f _)
  have hall : f.toBytes.take (20 + f.payload.length) = f.toBytes :=
    List.take_of_length_le (Nat.le_of_eq (length_toBytes f))
  have htotal : (UInt16.ofNat (20 + f.payload.length)).toNat = 20 + f.payload.length := by
    rw [UInt16.toNat_ofNat']
    unfold maxPayload at hlength
    omega
  have hword := f.toNat_fragmentWord
  have hlt := f.offset.toNat_lt
  have hoff : UInt16.ofNat (f.fragmentWord.toNat % 8192 * 8) = f.offset := by
    rw [← UInt16.toNat_inj, UInt16.toNat_ofNat', hword]
    split <;> split <;> omega
  have hmore : decide (f.fragmentWord.toNat / 8192 % 2 = 1) = f.moreFragments := by
    rw [hword]
    cases f.dontFragment <;> cases f.moreFragments <;> simp <;> omega
  have hdont : decide (f.fragmentWord.toNat / 16384 % 2 = 1) = f.dontFragment := by
    rw [hword]
    cases f.dontFragment <;> cases f.moreFragments <;> simp <;> omega
  have hversion : (0x45 : UInt8).toNat / 16 = 4 := rfl
  have hwords : (0x45 : UInt8).toNat % 16 * 4 = 20 := rfl
  obtain ⟨c₁, c₀, hcons⟩ := f.toBytes_cons
  rw [ofBytes?_cons verify hcons]
  simp only [word16_be16, hversion, hwords]
  simp only [htotal, hall, hdrop, hoff, hmore, hdont, hprotocol]
  apply if_pos
  refine ⟨trivial, by omega, Nat.le_of_eq (length_toBytes f).symm, fun _ => ?_⟩
  rw [htake]
  exact f.sumsToOnes_header

/-- Verifying only refuses more. -/
lemma ofBytes?_of_verified {bytes : Bytes} {f : Frame} (h : ofBytes? true bytes = some f)
    (verify : Bool) : ofBytes? verify bytes = some f := by
  unfold ofBytes? at h ⊢
  split at h
  · dsimp only at h ⊢
    split at h
    · rename_i hc
      rw [if_pos ⟨hc.1, hc.2.1, hc.2.2.1, fun _ => hc.2.2.2 rfl⟩]
      exact h
    · cases h
  · cases h

end Frame

namespace Segment

def toBytes (s : Segment) : Bytes := s.toFrame.toBytes

def ofBytes? (verify : Bool) (bytes : Bytes) : Option Segment :=
  Frame.ofBytes? verify bytes >>= ofFrame? verify

def headerFront (s : Segment) : Bytes :=
  be16 s.source.port ++ be16 s.destination.port ++ be32 s.sequence ++ be32 s.acknowledgment ++
    [UInt8.ofNat (16 * s.dataOffset), s.flags.toByte] ++ be16 s.window

def headerBack (s : Segment) : Bytes := be16 s.urgent ++ (s.paddedOptions ++ s.payload)

lemma header_append (s : Segment) (sum : UInt16) :
    s.header sum ++ s.payload = s.headerFront ++ be16 sum ++ s.headerBack := by
  simp only [header, headerFront, headerBack, List.append_assoc]

/-- The options of a header fill whole words, and no more of them than it has room for. -/
structure FitsHeader (s : Segment) : Prop where
  words : s.options.length % 4 = 0
  length_le : s.options.length ≤ 40

lemma FitsHeader.paddedOptions {s : Segment} (h : s.FitsHeader) :
    s.paddedOptions = s.options := by
  simp [Segment.paddedOptions, h.words]

lemma toFrame_payload_cons (s : Segment) : ∃ c₁ c₀, s.toFrame.payload =
    UInt8.ofNat (s.source.port.toNat / 256) :: UInt8.ofNat (s.source.port.toNat % 256) ::
      UInt8.ofNat (s.destination.port.toNat / 256) ::
      UInt8.ofNat (s.destination.port.toNat % 256) ::
      UInt8.ofNat (s.sequence.toNat / 16777216) :: UInt8.ofNat (s.sequence.toNat / 65536 % 256) ::
      UInt8.ofNat (s.sequence.toNat / 256 % 256) :: UInt8.ofNat (s.sequence.toNat % 256) ::
      UInt8.ofNat (s.acknowledgment.toNat / 16777216) ::
      UInt8.ofNat (s.acknowledgment.toNat / 65536 % 256) ::
      UInt8.ofNat (s.acknowledgment.toNat / 256 % 256) ::
      UInt8.ofNat (s.acknowledgment.toNat % 256) ::
      UInt8.ofNat (16 * s.dataOffset) :: s.flags.toByte ::
      UInt8.ofNat (s.window.toNat / 256) :: UInt8.ofNat (s.window.toNat % 256) :: c₁ :: c₀ ::
      UInt8.ofNat (s.urgent.toNat / 256) :: UInt8.ofNat (s.urgent.toNat % 256) ::
      (s.paddedOptions ++ s.payload) :=
  ⟨_, _, rfl⟩

lemma ofFrame?_cons (verify : Bool) {f : Frame} {rest : Bytes}
    {sp₁ sp₀ dp₁ dp₀ q₃ q₂ q₁ q₀ a₃ a₂ a₁ a₀ o flags w₁ w₀ c₁ c₀ u₁ u₀ : UInt8}
    (hf : f.protocol = .tcp ∧ f.isFragment = false)
    (h : f.payload = sp₁ :: sp₀ :: dp₁ :: dp₀ :: q₃ :: q₂ :: q₁ :: q₀ :: a₃ :: a₂ :: a₁ :: a₀ ::
      o :: flags :: w₁ :: w₀ :: c₁ :: c₀ :: u₁ :: u₀ :: rest) :
    ofFrame? verify f =
      if 20 ≤ o.toNat / 16 * 4 ∧ o.toNat / 16 * 4 ≤ f.payload.length ∧
          (verify → sumsToOnes (pseudo f.source f.destination f.payload.length) f.payload) then
        some
          { source := ⟨f.source, word16 sp₁ sp₀⟩
            destination := ⟨f.destination, word16 dp₁ dp₀⟩
            sequence := word32 q₃ q₂ q₁ q₀
            acknowledgment := word32 a₃ a₂ a₁ a₀
            flags := Flags.ofByte flags
            window := word16 w₁ w₀
            urgent := word16 u₁ u₀
            options := rest.take (o.toNat / 16 * 4 - 20)
            payload := rest.drop (o.toNat / 16 * 4 - 20) }
      else none := by
  rw [ofFrame?, if_neg (by simp [hf])]
  simp only [h]

lemma sumsToOnes_toFrame (s : Segment) :
    sumsToOnes (pseudo s.source.ip s.destination.ip s.toFrame.payload.length)
      s.toFrame.payload = true := by
  have hpayload : s.toFrame.payload = s.headerFront ++
      be16 (checksum
        (pseudo s.source.ip s.destination.ip (s.headerFront ++ be16 0 ++ s.headerBack).length)
        (s.headerFront ++ be16 0 ++ s.headerBack)) ++ s.headerBack := by
    rw [← header_append, ← header_append]
    rfl
  have hlength : s.toFrame.payload.length =
      (s.headerFront ++ be16 0 ++ s.headerBack).length := by
    rw [hpayload]
    simp only [List.length_append, length_be16]
  rw [hlength, hpayload]
  exact sumsToOnes_checksum _ _ _ (by simp [headerFront])

theorem ofFrame?_toFrame (s : Segment) (verify : Bool) (h : s.FitsHeader) :
    ofFrame? verify s.toFrame = some s := by
  have hoffset : (UInt8.ofNat (16 * s.dataOffset)).toNat / 16 * 4 = 20 + s.options.length := by
    have h1 := h.words
    have h2 := h.length_le
    rw [UInt8.toNat_ofNat', dataOffset, headerLength, h.paddedOptions]
    omega
  obtain ⟨c₁, c₀, hcons⟩ := s.toFrame_payload_cons
  rw [ofFrame?_cons verify ⟨rfl, rfl⟩ hcons]
  simp only [word16_be16, word32_be32, Flags.ofByte_toByte, hoffset, h.paddedOptions,
    Nat.add_sub_cancel_left, List.take_left', List.drop_left']
  apply if_pos
  refine ⟨by omega, ?_, fun _ => ?_⟩
  · rw [hcons, h.paddedOptions]
    simp only [List.length_cons, List.length_append]
    omega
  · exact s.sumsToOnes_toFrame

lemma length_toFrame_payload (s : Segment) (h : s.FitsHeader) :
    s.toFrame.payload.length = 20 + s.options.length + s.payload.length := by
  obtain ⟨c₁, c₀, hcons⟩ := s.toFrame_payload_cons
  rw [hcons, h.paddedOptions]
  simp only [List.length_cons, List.length_append]
  omega

theorem ofBytes?_toBytes (s : Segment) (verify : Bool) (h : s.FitsHeader)
    (hlength : 20 + s.options.length + s.payload.length ≤ Frame.maxPayload) :
    ofBytes? verify s.toBytes = some s := by
  have hframe : Frame.ofBytes? verify s.toBytes = some s.toFrame :=
    Frame.ofBytes?_toBytes s.toFrame verify (by rw [s.length_toFrame_payload h]; exact hlength)
      rfl rfl
  rw [ofBytes?, hframe]
  exact s.ofFrame?_toFrame verify h

theorem ofFrame?_eq_some {verify : Bool} {f : Frame} {s : Segment}
    (h : ofFrame? verify f = some s) : f.protocol = .tcp ∧ s.source.ip = f.source ∧
      s.destination.ip = f.destination ∧ s.FitsHeader := by
  unfold ofFrame? at h
  split at h
  · cases h
  · rename_i hf
    simp only [not_or, not_not] at hf
    split at h
    · rename_i o _ _ _ _ _ _ _ rest hp
      dsimp only at h
      split at h
      · rename_i hc
        obtain rfl := Option.some.inj h
        have ho := o.toNat_lt
        have hlen : f.payload.length = 20 + rest.length := by
          rw [hp]
          simp only [List.length_cons]
          omega
        refine ⟨hf.1, rfl, rfl, ?_, ?_⟩
        · simp only [List.length_take]
          omega
        · simp only [List.length_take]
          omega
      · cases h
    · cases h

lemma ofFrame?_of_verified {f : Frame} {s : Segment} (h : ofFrame? true f = some s)
    (verify : Bool) : ofFrame? verify f = some s := by
  unfold ofFrame? at h ⊢
  split at h
  · cases h
  · rename_i hf
    rw [if_neg hf]
    split at h
    · dsimp only at h ⊢
      split at h
      · rename_i hc
        rw [if_pos ⟨hc.1, hc.2.1, fun _ => hc.2.2 rfl⟩]
        exact h
      · cases h
    · cases h

lemma ofBytes?_of_verified {bytes : Bytes} {s : Segment} (h : ofBytes? true bytes = some s)
    (verify : Bool) :
    ∃ f, Frame.ofBytes? verify bytes = some f ∧ ofFrame? verify f = some s := by
  obtain ⟨f, hf, hs⟩ := Option.bind_eq_some_iff.mp h
  exact ⟨f, Frame.ofBytes?_of_verified hf verify, ofFrame?_of_verified hs verify⟩

end Segment

end GuestNat
