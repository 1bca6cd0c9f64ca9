import GuestNat.Wire.Frame

/-!
# TCP segments

A segment with its endpoints, and the frame that carries it. Options are kept as
raw octets; on writing they are padded with zeros to whole 32-bit words. The reset
that answers a segment follows the rule of RFC 793.
-/
namespace GuestNat

/-- The control bits of a segment. -/
structure Flags where
  fin : Bool := false
  syn : Bool := false
  rst : Bool := false
  psh : Bool := false
  ack : Bool := false
  urg : Bool := false
  ece : Bool := false
  cwr : Bool := false
  deriving DecidableEq, Repr, Inhabited

namespace Flags

/-- The control bits in an octet, the lowest bit first. -/
def ofByte (b : UInt8) : Flags :=
  let bit := fun unit => b.toNat / unit % 2 = 1
  ⟨bit 1, bit 2, bit 4, bit 8, bit 16, bit 32, bit 64, bit 128⟩

def toByte (f : Flags) : UInt8 :=
  UInt8.ofNat (f.fin.toNat + 2 * f.syn.toNat + 4 * f.rst.toNat + 8 * f.psh.toNat +
    16 * f.ack.toNat + 32 * f.urg.toNat + 64 * f.ece.toNat + 128 * f.cwr.toNat)

theorem ofByte_toByte (f : Flags) : ofByte f.toByte = f := by
  rcases f with ⟨_ | _, _ | _, _ | _, _ | _, _ | _, _ | _, _ | _, _ | _⟩ <;> rfl

/-- A request to open a connection. -/
def opens (f : Flags) : Bool := f.syn && !f.ack

/-- The answer to a request to open a connection. -/
def accepts (f : Flags) : Bool := f.syn && f.ack

end Flags

/-- A TCP segment with its endpoints. -/
structure Segment where
  source : Endpoint
  destination : Endpoint
  sequence : UInt32 := 0
  acknowledgment : UInt32 := 0
  flags : Flags := {}
  window : UInt16 := 0
  urgent : UInt16 := 0
  options : Bytes := []
  payload : Bytes := []
  deriving DecidableEq, Repr, Inhabited

namespace Segment

/-- The sequence numbers that a segment consumes: its payload, SYN and FIN. -/
def sequenceLength (s : Segment) : UInt32 :=
  UInt32.ofNat (s.payload.length + s.flags.syn.toNat + s.flags.fin.toNat)

/-- The options, padded with zeros to whole 32-bit words. -/
def paddedOptions (s : Segment) : Bytes :=
  s.options ++ List.replicate ((4 - s.options.length % 4) % 4) 0

/-- The length of the written header. -/
def headerLength (s : Segment) : Nat := 20 + s.paddedOptions.length

/-- The four bits that give the header length in words. A length beyond an octet wraps,
and so does a number of words beyond the field. -/
def dataOffset (s : Segment) : Nat := s.headerLength % 256 / 4 % 16

def header (s : Segment) (sum : UInt16) : Bytes :=
  be16 s.source.port ++ be16 s.destination.port ++ be32 s.sequence ++ be32 s.acknowledgment ++
    [UInt8.ofNat (16 * s.dataOffset), s.flags.toByte] ++ be16 s.window ++ be16 sum ++
    be16 s.urgent ++ s.paddedOptions

def pseudo (source destination : Ipv4) (length : Nat) : Nat :=
  pseudoSum source destination 6 length

/-- The frame that carries a segment, with the checksum filled in. -/
def toFrame (s : Segment) : Frame :=
  let unsummed := s.header 0 ++ s.payload
  let sum := checksum (pseudo s.source.ip s.destination.ip unsummed.length) unsummed
  { source := s.source.ip
    destination := s.destination.ip
    protocol := .tcp
    payload := s.header sum ++ s.payload }

/-- The segment that a frame carries. A fragment carries none. With `verify` the
segment must carry its checksum. -/
def ofFrame? (verify : Bool) (f : Frame) : Option Segment :=
  if f.protocol ≠ .tcp ∨ f.isFragment then none
  else match f.payload with
    | sp₁ :: sp₀ :: dp₁ :: dp₀ :: q₃ :: q₂ :: q₁ :: q₀ :: a₃ :: a₂ :: a₁ :: a₀ :: o :: flags ::
        w₁ :: w₀ :: _ :: _ :: u₁ :: u₀ :: rest =>
      let headerLength := o.toNat / 16 * 4
      if 20 ≤ headerLength ∧ headerLength ≤ f.payload.length ∧
          (verify → sumsToOnes (pseudo f.source f.destination f.payload.length) f.payload) then
        some
          { source := ⟨f.source, word16 sp₁ sp₀⟩
            destination := ⟨f.destination, word16 dp₁ dp₀⟩
            sequence := word32 q₃ q₂ q₁ q₀
            acknowledgment := word32 a₃ a₂ a₁ a₀
            flags := Flags.ofByte flags
            window := word16 w₁ w₀
            urgent := word16 u₁ u₀
            options := rest.take (headerLength - 20)
            payload := rest.drop (headerLength - 20) }
      else none
    | _ => none

/-- The reset that answers a segment: it takes the acknowledged number as its own, or
acknowledges the whole segment where that acknowledges nothing. -/
def reset (s : Segment) : Segment :=
  if s.flags.ack then
    { source := s.destination
      destination := s.source
      sequence := s.acknowledgment
      flags := { rst := true } }
  else
    { source := s.destination
      destination := s.source
      acknowledgment := s.sequence + s.sequenceLength
      flags := { rst := true, ack := true } }

end Segment

end GuestNat
