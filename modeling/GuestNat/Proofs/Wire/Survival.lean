import GuestNat.Proofs.Wire.RoundTrip

/-!
# Which frames and segments survive the wire

Lengths wrap in their fields, offsets lose what is below a unit, and a protocol goes by its
number, so not every frame comes back from its octets. What is read has none of these flaws, so a
frame that has one is lost, and any other comes back (`Frame.preserved_iff`). Likewise what is
read from a frame has options that fit a header, and what is read from a written frame has the
length of some frame; so a segment that lacks either is lost, and any other comes back
(`Segment.read_back_iff`).
-/
namespace GuestNat

lemma Protocol.ofNumber_number_iff (p : Protocol) :
    ofNumber p.number = p ↔ p ≠ .other 1 ∧ p ≠ .other 6 ∧ p ≠ .other 17 := by
  cases p with
  | other n =>
    simp only [number, ofNumber, ne_eq, other.injEq]
    by_cases htcp : n = 6
    · simp [htcp]
    · by_cases hudp : n = 17
      · simp [hudp]
      · by_cases hicmp : n = 1
        · simp [hicmp]
        · simp [htcp, hudp, hicmp]
  | _ => decide

lemma Frame.ofBytes?_eq_some {verify : Bool} {bytes : Bytes} {f : Frame}
    (h : ofBytes? verify bytes = some f) :
    f.offset.toNat % 8 = 0 ∧ Protocol.ofNumber f.protocol.number = f.protocol := by
  unfold ofBytes? at h
  split at h
  · dsimp only at h
    split at h
    · obtain rfl := Option.some.inj h
      refine ⟨?_, by rw [Protocol.number_ofNumber]⟩
      rw [UInt16.toNat_ofNat']
      omega
    · cases h
  · cases h

/-- The length field of a written frame has no room for more than a frame, whatever it wraps. -/
lemma Frame.length_le_of_ofBytes?_toBytes {verify : Bool} {f g : Frame}
    (h : ofBytes? verify f.toBytes = some g) : g.payload.length ≤ maxPayload := by
  obtain ⟨c₁, c₀, hcons⟩ := f.toBytes_cons
  rw [ofBytes?_cons verify hcons] at h
  split at h
  · obtain rfl := Option.some.inj h
    have htotal := (UInt16.ofNat (20 + f.payload.length)).toNat_lt
    have hwords : (0x45 : UInt8).toNat % 16 * 4 = 20 := rfl
    simp only [word16_be16, hwords, List.length_drop, List.length_take, maxPayload]
    omega
  · cases h

/-- A frame comes back from its octets, with or without its checksum verified, exactly if its
payload is at most 65515 octets, its offset is in units of eight octets, and its protocol is not
one of the three with a name held by its number. Whatever else it says comes back in any case. -/
theorem Frame.preserved_iff (f : Frame) (verify : Bool) : ofBytes? verify f.toBytes = some f ↔
    f.payload.length ≤ 65515 ∧ f.offset.toNat % 8 = 0 ∧
      f.protocol ≠ .other 1 ∧ f.protocol ≠ .other 6 ∧ f.protocol ≠ .other 17 := by
  rw [← Protocol.ofNumber_number_iff]
  constructor
  · intro h
    obtain ⟨hoffset, hprotocol⟩ := ofBytes?_eq_some h
    exact ⟨length_le_of_ofBytes?_toBytes h, hoffset, hprotocol⟩
  · rintro ⟨hlength, hoffset, hprotocol⟩
    exact f.ofBytes?_toBytes verify hlength hoffset hprotocol

/-- A fragment of an ICMP message comes back. It also comes back in place of one that starts in
the middle of a unit, or that goes by the number of its protocol. -/
example :
    let f : Frame :=
      { source := ⟨10, 0, 0, 5⟩, destination := ⟨1, 1, 1, 1⟩, protocol := .icmp
        offset := 1480, moreFragments := true, payload := [1, 2, 3] }
    let between : Frame := { f with offset := 1481 }
    let unnamed : Frame := { f with protocol := .other 1 }
    Frame.ofBytes? true f.toBytes = some f ∧
      Frame.ofBytes? true between.toBytes = some f ∧
      Frame.ofBytes? true unnamed.toBytes = some f := by decide +kernel

namespace Segment

variable {verify : Bool} {f : Frame} {s : Segment}

lemma length_of_ofFrame? (h : ofFrame? verify f = some s) :
    20 + s.options.length + s.payload.length = f.payload.length := by
  unfold ofFrame? at h
  split at h
  · cases h
  · split at h
    · rename_i rest hp
      dsimp only at h
      split at h
      · obtain rfl := Option.some.inj h
        rw [hp]
        simp only [List.length_cons, List.length_take, List.length_drop]
        omega
      · cases h
    · cases h

lemma length_le_of_ofBytes?_toBytes (h : ofBytes? verify s.toBytes = some s) :
    20 + s.options.length + s.payload.length ≤ Frame.maxPayload := by
  obtain ⟨g, hg, hs⟩ := Option.bind_eq_some_iff.mp h
  rw [length_of_ofFrame? hs]
  exact Frame.length_le_of_ofBytes?_toBytes hg

/-- A segment comes back from its octets exactly if its options fit a header and the whole of it
fits a frame. -/
lemma ofBytes?_toBytes_iff (s : Segment) : ofBytes? verify s.toBytes = some s ↔
    s.FitsHeader ∧ 20 + s.options.length + s.payload.length ≤ Frame.maxPayload := by
  refine ⟨fun h => ⟨?_, length_le_of_ofBytes?_toBytes h⟩, fun ⟨hheader, hlength⟩ =>
    s.ofBytes?_toBytes verify hheader hlength⟩
  obtain ⟨g, -, hs⟩ := Option.bind_eq_some_iff.mp h
  exact (ofFrame?_eq_some hs).2.2.2

/-- A segment comes back from its octets, all checksums verified, exactly if its options are at
most forty octets in whole words and it has at most 65515 octets with its header. The options of
every segment that was read are such, so its frame always reads as the same segment, and so do
its octets if they fit a frame at all. -/
theorem read_back_iff :
    (∀ s : Segment, ofBytes? true s.toBytes = some s ↔
      s.options.length % 4 = 0 ∧ s.options.length ≤ 40 ∧
        20 + s.options.length + s.payload.length ≤ 65515) ∧
    ∀ (verify : Bool) (f : Frame) (s : Segment), ofFrame? verify f = some s →
      s.options.length % 4 = 0 ∧ s.options.length ≤ 40 ∧ ofFrame? true s.toFrame = some s ∧
        (ofBytes? true s.toBytes = some s ↔ f.payload.length ≤ 65515) := by
  refine ⟨fun s => ?_, fun verify f s h => ?_⟩
  · rw [ofBytes?_toBytes_iff]
    exact ⟨fun ⟨hheader, hlength⟩ => ⟨hheader.words, hheader.length_le, hlength⟩,
      fun ⟨hwords, hle, hlength⟩ => ⟨⟨hwords, hle⟩, hlength⟩⟩
  · obtain ⟨-, -, -, hheader⟩ := ofFrame?_eq_some h
    refine ⟨hheader.words, hheader.length_le, s.ofFrame?_toFrame true hheader, ?_⟩
    rw [ofBytes?_toBytes_iff, length_of_ofFrame? h]
    exact and_iff_right hheader

/-- A request with an option of one word comes back. With three octets of options it does not:
they are padded to a word, which is what is read. -/
theorem read_back_iff_options :
    let s : Segment :=
      { source := ⟨⟨10, 0, 0, 5⟩, 51000⟩, destination := ⟨⟨93, 184, 216, 34⟩, 80⟩
        flags := { syn := true }, options := [2, 4, 5, 180], payload := [104, 105] }
    let padded : Segment := { s with options := [1, 1, 1] }
    ofFrame? true s.toFrame = some s ∧ ofBytes? true s.toBytes = some s ∧
      ofBytes? true padded.toBytes ≠ some padded := by
  intro s padded
  have hframe : ofFrame? true s.toFrame = some s := by decide +kernel
  obtain ⟨-, -, -, hbytes⟩ := read_back_iff.2 true s.toFrame s hframe
  refine ⟨hframe, hbytes.mpr (by decide), fun hpadded => ?_⟩
  obtain ⟨hwords, -⟩ := (read_back_iff.1 padded).mp hpadded
  exact absurd hwords (by decide)

end Segment

end GuestNat
