import GuestNat.Bytes

/-!
# Local ports

A pool hands out the ports of a range in cyclic order from a cursor, and skips
those that are taken. So a port that was just released comes round again only
after every other port of the range.
-/
namespace GuestNat

/-- A range of ports with a cursor on the next one to try. -/
structure PortPool where
  first : UInt16
  last : UInt16
  cursor : UInt16
  deriving DecidableEq, Repr, Inhabited

namespace PortPool

/-- The pool of a range, with the cursor on its first port. -/
def ofRange (first last : UInt16) : PortPool := ⟨first, last, first⟩

def capacity (p : PortPool) : Nat := p.last.toNat + 1 - p.first.toNat

/-- The pool with its cursor one port on; the first port follows the last. -/
def advance (p : PortPool) : PortPool :=
  { p with cursor := if p.last ≤ p.cursor then p.first else p.cursor + 1 }

/-- Tries a number of ports from the cursor on for one that is not taken. -/
def search (p : PortPool) (taken : UInt16 → Bool) : Nat → Option UInt16 × PortPool
  | 0 => (none, p)
  | n + 1 => if taken p.cursor then p.advance.search taken n else (some p.cursor, p.advance)

/-- The first port from the cursor on that is not taken, if the range has one, and the
pool with its cursor behind it. -/
def nextFree (p : PortPool) (taken : UInt16 → Bool) : Option UInt16 × PortPool :=
  p.search taken p.capacity

/-- The first port from the cursor on that is neither in use nor reserved by the host. -/
def allocate (p : PortPool) (inUse : UInt16 → Bool) (reserved : List UInt16) :
    Option UInt16 × PortPool :=
  p.nextFree fun port => inUse port || reserved.contains port

/-- The ports that a number of draws give one after another. -/
def draw (p : PortPool) (next : PortPool → Option UInt16 × PortPool) :
    Nat → List (Option UInt16) × PortPool
  | 0 => ([], p)
  | n + 1 =>
    let (port, p) := next p
    let (ports, p) := p.draw next n
    (port :: ports, p)

end PortPool

end GuestNat
