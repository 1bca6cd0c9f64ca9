import GuestNat.Wire.Checksum

/-!
# IPv4 frames

A frame is an IPv4 datagram: the header fields that a translator needs, and the
payload. Reading accepts any header length that fits the total length, so options
are skipped; writing always uses the plain header of twenty octets.
-/
namespace GuestNat

/-- The protocol of a payload. The three numbers with a name of their own can also
be held as `other`, which is then a different protocol. -/
inductive Protocol where
  | tcp
  | udp
  | icmp
  | other (number : UInt8)
  deriving DecidableEq, Repr, Inhabited

def Protocol.ofNumber (n : UInt8) : Protocol :=
  if n = 6 then .tcp else if n = 17 then .udp else if n = 1 then .icmp else .other n

def Protocol.number : Protocol → UInt8
  | tcp => 6
  | udp => 17
  | icmp => 1
  | other n => n

@[simp] theorem Protocol.number_ofNumber (n : UInt8) : (ofNumber n).number = n := by
  unfold ofNumber
  split
  · simp_all [number]
  · split
    · simp_all [number]
    · split <;> simp_all [number]

/-- An IPv4 datagram. -/
structure Frame where
  source : Ipv4
  destination : Ipv4
  protocol : Protocol
  identification : UInt16 := 0
  /-- Where the payload starts in the whole datagram, in octets. -/
  offset : UInt16 := 0
  moreFragments : Bool := false
  dontFragment : Bool := false
  ttl : UInt8 := 64
  payload : Bytes
  deriving DecidableEq, Repr, Inhabited

namespace Frame

/-- Whether the frame is one piece of a larger datagram. -/
def isFragment (f : Frame) : Bool := f.moreFragments || f.offset ≠ 0

/-- The fragment that carries the octets of the payload from one place up to another. -/
def slice (f : Frame) (start stop : Nat) : Frame :=
  { f with
    offset := UInt16.ofNat start
    moreFragments := stop < f.payload.length
    payload := (f.payload.take stop).drop start }

/-- The longest payload whose total length fits its field. -/
def maxPayload : Nat := 65515

/-- The header field with the flags and the offset in units of eight octets. -/
def fragmentWord (f : Frame) : UInt16 :=
  UInt16.ofNat ((if f.dontFragment then 16384 else 0) + (if f.moreFragments then 8192 else 0) +
    f.offset.toNat / 8)

/-- The header of a frame, with a given checksum. Lengths beyond the field wrap. -/
def header (f : Frame) (sum : UInt16) : Bytes :=
  [0x45, 0] ++ be16 (UInt16.ofNat (20 + f.payload.length)) ++ be16 f.identification ++
    be16 f.fragmentWord ++ [f.ttl, f.protocol.number] ++ be16 sum ++ f.source.octets ++
    f.destination.octets

@[simp] theorem length_header (f : Frame) (sum : UInt16) : (f.header sum).length = 20 := rfl

/-- The octets of a frame, with the header checksum filled in. -/
def toBytes (f : Frame) : Bytes := f.header (checksum 0 (f.header 0)) ++ f.payload

theorem length_toBytes (f : Frame) : f.toBytes.length = 20 + f.payload.length := by
  simp [toBytes]

/-- The frame in a string of octets. Octets after the total length are ignored. With
`verify` the header must carry its checksum. -/
def ofBytes? (verify : Bool) (bytes : Bytes) : Option Frame :=
  match bytes with
  | v :: _ :: l₁ :: l₀ :: i₁ :: i₀ :: f₁ :: f₀ :: ttl :: p :: _ :: _ ::
      s₃ :: s₂ :: s₁ :: s₀ :: d₃ :: d₂ :: d₁ :: d₀ :: _ =>
    let headerLength := v.toNat % 16 * 4
    let totalLength := (word16 l₁ l₀).toNat
    let fragment := (word16 f₁ f₀).toNat
    if v.toNat / 16 = 4 ∧ headerLength ≤ totalLength ∧ totalLength ≤ bytes.length ∧
        (verify → sumsToOnes 0 (bytes.take headerLength)) then
      some
        { source := ⟨s₃, s₂, s₁, s₀⟩
          destination := ⟨d₃, d₂, d₁, d₀⟩
          protocol := Protocol.ofNumber p
          identification := word16 i₁ i₀
          offset := UInt16.ofNat (fragment % 8192 * 8)
          moreFragments := fragment / 8192 % 2 = 1
          dontFragment := fragment / 16384 % 2 = 1
          ttl := ttl
          payload := (bytes.take totalLength).drop headerLength }
    else none
  | _ => none

end Frame

end GuestNat
