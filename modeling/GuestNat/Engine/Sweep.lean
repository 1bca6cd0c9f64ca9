import GuestNat.Engine.Basic

/-!
# Aging

A sweep closes links that are finished or have been idle too long, discards stale
fragments and evicts idle flows. A link that is closing keeps its place for a grace
period after its socket was taken away, so that trailing acknowledgments find it.
-/
namespace GuestNat

/-- What a sweep does with a link. -/
inductive Verdict where
  | keep
  /-- Take its socket away, and close it after the grace period. -/
  | finalize
  | close
  deriving DecidableEq, Repr

/-- What one sweep reclaimed. -/
structure SweepReport where
  links : Nat
  groups : Nat
  flows : Nat
  deriving DecidableEq, Repr, Inhabited

/-- What a sweep at a time does with a link. -/
def Config.verdict (c : Config) (now : Nat) (l : Link) : Verdict :=
  let ending := if c.subnet then .close else .finalize
  match l.stage with
  | .closed => .close
  | .opening => if c.maxSyn < l.idle now then .close else .keep
  | .connected => if c.maxInactivity < l.idle now then ending else .keep
  | .closing => ending

namespace Engine

/-- Takes the socket of a link away and begins its grace period. Tells whether the period
is over. -/
def finalize (e : Engine) (now : Nat) (l : Link) : Engine × Bool :=
  let l' := (l.beginFinal now).detach
  ((e.modifyLink l.id fun _ => l').hangUp [l],
    e.config.maxFinal ≤ now - l.finalSince.getD now)

/-- Sweeps one link. Tells whether it was closed. -/
def sweepLink (e : Engine) (now : Nat) (id : LinkId) : Engine × Bool :=
  match e.links.link? id with
  | none => (e, false)
  | some l =>
    match e.config.verdict now l with
    | .keep => (e, false)
    | .close => e.closeLink id
    | .finalize =>
      let (e, elapsed) := e.finalize now l
      if elapsed then e.closeLink id else (e, false)

/-- What the finalization of a link and its closing preserve holds after a visit to it. -/
theorem sweepLink_induction {P : Engine → Prop} {now : Nat} (e : Engine) (id : LinkId) (start : P e)
    (finalize : ∀ l, e.links.link? id = some l → e.config.verdict now l = .finalize →
      P (e.finalize now l).1)
    (close : ∀ d : Engine, P d → P (d.closeLink id).1) : P (e.sweepLink now id).1 := by
  unfold sweepLink
  split
  · exact start
  · rename_i l hl
    split
    · exact start
    · exact close e start
    · rename_i hverdict
      have hfinal := finalize l hl hverdict
      dsimp only
      split
      · exact close _ hfinal
      · exact hfinal

/-- Sweeps links in an order. Tells how many were closed. -/
def sweepLinks (e : Engine) (now : Nat) (order : List LinkId) : Engine × Nat :=
  order.foldl
    (fun (e, n) id =>
      let (e, closed) := e.sweepLink now id
      (e, if closed then n + 1 else n))
    (e, 0)

/-- What a visit to any link preserves holds after visits to many. -/
theorem sweepLinks_induction {P : Engine → Prop} {now : Nat} (e : Engine) (order : List LinkId)
    (start : P e) (visit : ∀ (d : Engine) (id : LinkId), P d → P (d.sweepLink now id).1) :
    P (e.sweepLinks now order).1 := by
  unfold sweepLinks
  generalize (0 : Nat) = n
  induction order generalizing e n with
  | nil => exact start
  | cons id rest ih => exact ih _ (visit e id start) _

/-- One sweep at a time, which may be ahead of the clock. Live links are visited in a given
order. -/
def sweepIn (order : List LinkId) (e : Engine) (w : Surroundings) (now : Nat) :
    Engine × SweepReport :=
  let (e, links) := e.sweepLinks now order
  let (reassembler, groups) := e.reassembler.sweep now
  let e := { e with reassembler }.count (·.groupsWereExpired groups)
  let (flows, evicted, effects) := e.flows.evict now e.config.udpInactivity
  ({ e with flows }.absorb w effects, ⟨links, groups, evicted⟩)

def sweep (e : Engine) (w : Surroundings) (now : Nat) : Engine × SweepReport :=
  e.sweepIn e.links.live w now

end Engine

end GuestNat
