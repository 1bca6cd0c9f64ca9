import GuestNat.Table
import GuestNat.Wire.Frame

/-!
# Fragment reassembly

Fragments of a datagram wait in a group until they form a run without gaps that
ends in a last fragment; then the group leaves the table as one frame. A group
has a deadline, set when its first fragment arrives, and pieces that reach it are
discarded together.
-/
namespace GuestNat

/-- What the fragments of one datagram have in common. -/
structure FragmentKey where
  protocol : Protocol
  source : Ipv4
  destination : Ipv4
  identification : UInt16
  deriving DecidableEq, Repr, Inhabited

def FragmentKey.of (f : Frame) : FragmentKey :=
  ⟨f.protocol, f.source, f.destination, f.identification⟩

/-- The fragments of one datagram, in ascending order of offset. -/
structure FragmentGroup where
  fragments : List Frame
  /-- The time from which the group is stale. -/
  deadline : Nat
  deriving Repr, Inhabited

/-- The list with a fragment put at the place of its offset, unless one of that offset
is there. -/
def insertFragment (f : Frame) : List Frame → Option (List Frame)
  | [] => some [f]
  | g :: rest =>
    if f.offset < g.offset then some (f :: g :: rest)
    else if f.offset = g.offset then none
    else (insertFragment f rest).map (g :: ·)

/-- The length of the datagram, counted from an offset that the next fragment must
have, if the fragments run without gaps to a last one. -/
def completeLengthFrom (expected : Nat) : List Frame → Option Nat
  | [] => none
  | f :: rest =>
    if f.offset.toNat ≠ expected then none
    else if f.moreFragments then completeLengthFrom (expected + f.payload.length) rest
    else some (expected + f.payload.length)

/-- The length of the datagram, if the fragments are complete. -/
def completeLength (fs : List Frame) : Option Nat := completeLengthFrom 0 fs

/-- The fragments after the first that belong to the datagram: those up to the first
that is marked as the last. -/
def throughLast : List Frame → List Frame
  | [] => []
  | f :: rest => if f.moreFragments then f :: throughLast rest else [f]

/-- The datagram made of complete fragments: the header of the first and the payloads
in order. -/
def assemble : List Frame → Option Frame
  | [] => none
  | head :: rest =>
    some
      { head with
        offset := 0
        moreFragments := false
        payload := head.payload ++ (throughLast rest).flatMap (·.payload) }

/-- The answer to a frame offered for reassembly. -/
inductive Offer where
  | whole
  /-- The fragment was stored and others are missing. -/
  | buffered
  /-- The fragment was the last one missing. -/
  | complete (frame : Frame)
  /-- The fragment is a duplicate, ends too far out, or finds no room. -/
  | rejected
  deriving DecidableEq, Repr, Inhabited

/-- The table of incomplete datagrams. -/
structure Reassembler where
  /-- How long a group may wait, in milliseconds. -/
  timeout : Nat := 1000
  /-- How many groups may wait at once. -/
  capacity : Nat := 1024
  groups : Table FragmentKey FragmentGroup := .empty

namespace Reassembler

/-- The number of datagrams that wait for fragments. -/
def pending (r : Reassembler) : Nat := r.groups.size

/-- The table without a group of this key that is stale at a time. -/
def dropStale (r : Reassembler) (key : FragmentKey) (now : Nat) : Reassembler :=
  match r.groups.get? key with
  | some g => if g.deadline ≤ now then { r with groups := r.groups.erase key } else r
  | none => r

/-- Stores a fragment in the group of its key, which starts now if there is none. -/
def store (r : Reassembler) (key : FragmentKey) (f : Frame) (now : Nat) : Reassembler × Offer :=
  let group := (r.groups.get? key).getD ⟨[], now + r.timeout⟩
  match insertFragment f group.fragments with
  | none => (r, .rejected)
  | some fs =>
    match completeLength fs, assemble fs with
    | some _, some whole => ({ r with groups := r.groups.erase key }, .complete whole)
    | _, _ => ({ r with groups := r.groups.insert key { group with fragments := fs } }, .buffered)

def offer (r : Reassembler) (f : Frame) (now : Nat) : Reassembler × Offer :=
  if !f.isFragment then (r, .whole)
  else if Frame.maxPayload < f.offset.toNat + f.payload.length then (r, .rejected)
  else
    let key := FragmentKey.of f
    let r := r.dropStale key now
    if !r.groups.contains key && r.capacity ≤ r.groups.size then (r, .rejected)
    else r.store key f now

/-- Discards every group that is stale at a time, and tells how many there were. -/
def sweep (r : Reassembler) (now : Nat) : Reassembler × Nat :=
  let kept := r.groups.filter fun _ g => now < g.deadline
  ({ r with groups := kept }, r.groups.size - kept.size)

def clear (r : Reassembler) : Reassembler := { r with groups := .empty }

end Reassembler

end GuestNat
