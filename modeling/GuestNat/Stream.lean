import GuestNat.Fault
import GuestNat.Bytes

/-!
# Streams of octets

The two ends of a byte stream as a program sees them: a source that it reads, chunk
by chunk, and a sink that it writes to. A source ends behind its last chunk, or
fails there; a sink may take only so much.
-/
namespace GuestNat

/-- What can be read from a stream. -/
structure Source where
  chunks : List Bytes := []
  /-- Why reading fails behind the last chunk, if the stream does not end there. -/
  failure : Option Fault := none
  deriving Repr, Inhabited

namespace Source

/-- All that can be read. -/
def octets (s : Source) : Bytes := s.chunks.flatten

/-- Reads what has arrived, at most a number of octets. A read of no octets is the end of
the stream. -/
def read (s : Source) (most : Nat) : Source × Except Fault Bytes :=
  match s.chunks with
  | [] => (s, match s.failure with
    | some fault => .error fault
    | none => .ok [])
  | c :: rest =>
    ({ s with chunks := if c.length ≤ most then rest else c.drop most :: rest }, .ok (c.take most))

/-- The first octet of a list of chunks, and the chunks behind it. -/
def headOctet? : List Bytes → Option (UInt8 × List Bytes)
  | [] => none
  | [] :: rest => headOctet? rest
  | (b :: bs) :: rest => some (b, bs :: rest)

/-- Reads one octet. Empty chunks do not count. -/
def next? (s : Source) : Option (UInt8 × Source) :=
  (headOctet? s.chunks).map fun (b, chunks) => (b, { s with chunks })

theorem headOctet?_eq (cs : List Bytes) :
    (headOctet? cs).map (fun (b, rest) => b :: rest.flatten) =
      if cs.flatten = [] then none else some cs.flatten := by
  fun_induction headOctet? cs with
  | case1 => rfl
  | case2 rest ih => simpa using ih
  | case3 b bs rest => simp

end Source

/-- Where the octets of a stream are written to. -/
structure Sink where
  /-- How many more octets are taken and why writing fails beyond that, if it does. -/
  limit : Option (Nat × Fault) := none
  /-- Why the end of the stream cannot be announced, if it cannot. -/
  endFault : Option Fault := none
  written : Bytes := []
  /-- How often the end of the stream was announced. -/
  ends : Nat := 0
  deriving Repr, Inhabited

namespace Sink

/-- The fault of a sink that takes no more octets but does not say why. -/
def writeZero : Fault := .host "write zero"

/-- Writes a string, or as much of it as is taken. -/
def write (s : Sink) (bs : Bytes) : Sink × Except Fault Unit :=
  match s.limit with
  | none => ({ s with written := s.written ++ bs }, .ok ())
  | some (room, fault) =>
    ({ s with
        written := s.written ++ bs.take room
        limit := some (room - bs.length, fault) },
      if bs.length ≤ room then .ok () else .error fault)

theorem written_write {s s' : Sink} {bs : Bytes} (h : s.write bs = (s', .ok ())) :
    s'.written = s.written ++ bs := by
  unfold write at h
  split at h
  · simp only [Prod.mk.injEq, and_true] at h
    simp [← h]
  · simp only [Prod.mk.injEq] at h
    obtain ⟨rfl, h⟩ := h
    split at h
    · rename_i hb
      simp [List.take_of_length_le hb]
    · cases h

def finish (s : Sink) : Sink × Except Fault Unit :=
  ({ s with ends := s.ends + 1 }, match s.endFault with
    | some fault => .error fault
    | none => .ok ())

end Sink

end GuestNat
