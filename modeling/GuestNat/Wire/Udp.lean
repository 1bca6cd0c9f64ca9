import GuestNat.Wire.Frame

/-!
# UDP datagrams

A datagram with its endpoints, and the frame that carries it. The length field
bounds the payload and what the checksum covers. A checksum field of zero means
that there is none; a computed checksum of zero is written as all ones.
-/
namespace GuestNat

/-- A UDP datagram with its endpoints. -/
structure Datagram where
  source : Endpoint
  destination : Endpoint
  payload : Bytes
  deriving DecidableEq, Repr, Inhabited

namespace Datagram

/-- The length field. A length beyond the field wraps. -/
def lengthField (d : Datagram) : UInt16 := UInt16.ofNat (8 + d.payload.length)

def header (d : Datagram) (sum : UInt16) : Bytes :=
  be16 d.source.port ++ be16 d.destination.port ++ be16 d.lengthField ++ be16 sum

def pseudo (source destination : Ipv4) (length : Nat) : Nat :=
  pseudoSum source destination 17 length

/-- The checksum to write. It covers as many octets as the length field says. -/
def checksumField (d : Datagram) : UInt16 :=
  let length := d.lengthField.toNat
  let sum := checksum (pseudo d.source.ip d.destination.ip length)
    ((d.header 0 ++ d.payload).take length)
  if sum = 0 then 0xffff else sum

/-- The frame that carries a datagram, with the checksum filled in. -/
def toFrame (d : Datagram) : Frame :=
  { source := d.source.ip
    destination := d.destination.ip
    protocol := .udp
    payload := d.header d.checksumField ++ d.payload }

/-- The datagram that a frame carries. A fragment carries none. With `verify` a
checksum, if there is one, must be right. -/
def ofFrame? (verify : Bool) (f : Frame) : Option Datagram :=
  if f.protocol ≠ .udp ∨ f.isFragment then none
  else match f.payload with
    | sp₁ :: sp₀ :: dp₁ :: dp₀ :: l₁ :: l₀ :: c₁ :: c₀ :: rest =>
      let length := (word16 l₁ l₀).toNat
      if 8 ≤ length ∧ length ≤ f.payload.length ∧
          (verify → word16 c₁ c₀ = 0 ∨
            sumsToOnes (pseudo f.source f.destination length) (f.payload.take length)) then
        some
          { source := ⟨f.source, word16 sp₁ sp₀⟩
            destination := ⟨f.destination, word16 dp₁ dp₀⟩
            payload := rest.take (length - 8) }
      else none
    | _ => none

end Datagram

end GuestNat
