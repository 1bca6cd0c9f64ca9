import GuestNat.Stream

/-!
# Dialogues over a byte stream

A dialogue is what one party of a protocol does: it writes strings, reads octets
one at a time and decides by them how to go on. A transport is the other end as
this party sees it. Running a dialogue leaves on the transport what was not read.
-/
namespace GuestNat

/-- One party of a protocol. -/
inductive Dialogue where
  | done
  | fail (fault : Fault)
  | write (bytes : Bytes) (next : Dialogue)
  | read (next : UInt8 → Dialogue)

/-- The other end of a stream: what it sends and what it takes. -/
structure Transport where
  source : Source := {}
  sink : Sink := {}

namespace Dialogue

/-- Reads a number of octets that do not matter. -/
def skip : Nat → Dialogue → Dialogue
  | 0, next => next
  | n + 1, next => read fun _ => skip n next

/-- The fault of a stream that ends while octets are still expected. -/
def earlyEnd : Fault := .host "early eof"

def run : Dialogue → Transport → Transport × Except Fault Unit
  | done, t => (t, .ok ())
  | fail fault, t => (t, .error fault)
  | write bytes next, t =>
    match t.sink.write bytes with
    | (sink, .ok ()) => next.run { t with sink }
    | (sink, .error fault) => ({ t with sink }, .error fault)
  | read next, t =>
    match t.source.next? with
    | some (b, source) => (next b).run { t with source }
    | none => ({ t with source := { t.source with chunks := [] } },
      .error (t.source.failure.getD earlyEnd))

end Dialogue

end GuestNat
