import GuestNat.Engine.Run

/-!
# Replies

What a command of a rehearsal answers at once.
-/
namespace GuestNat.Rehearsal

inductive Reply where
  | silent
  | ok
  | outcome (result : Except Fault Unit)
  | flag (b : Bool)
  | number (n : Nat)
  | text (s : String)
  | report (r : SweepReport)
  | noSocket
  | link (id : Option LinkId)
  | links (ls : List Link)
  | allocated (result : Except Fault Allocation)
  | segment (s : Option Segment)
  /-- The addresses and the state of a link. -/
  | view (l : Link)

end GuestNat.Rehearsal
