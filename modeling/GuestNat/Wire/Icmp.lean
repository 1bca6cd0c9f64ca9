import GuestNat.Wire.Frame

/-!
# ICMP messages

A message is kept whole: type and code are read from its front, and its checksum
covers all of it.
-/
namespace GuestNat

structure IcmpMessage where
  source : Ipv4
  destination : Ipv4
  kind : UInt8
  code : UInt8
  /-- The complete message, from its type on. -/
  body : Bytes
  deriving DecidableEq, Repr, Inhabited

/-- The message that a frame carries. A fragment carries none. With `verify` the message
must carry its checksum. -/
def IcmpMessage.ofFrame? (verify : Bool) (f : Frame) : Option IcmpMessage :=
  if f.protocol ≠ .icmp ∨ f.isFragment then none
  else match f.payload with
    | kind :: code :: _ :: _ :: _ :: _ :: _ :: _ :: _ =>
      if verify → sumsToOnes 0 f.payload then
        some ⟨f.source, f.destination, kind, code, f.payload⟩
      else none
    | _ => none

end GuestNat
