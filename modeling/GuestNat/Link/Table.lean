import GuestNat.Fault
import GuestNat.Link.Basic
import GuestNat.Port.Pool
import GuestNat.Table

/-!
# The link table

The table finds a live link by the 4-tuple of the guest and by its local port. The
two indexes change together. Links are kept by identity after they have left the
indexes, because late events still refer to them: closing an old link must not
touch a newer one that uses its 4-tuple or its port again.
-/
namespace GuestNat

/-- The links of an engine, with two indexes over those that are live. -/
structure LinkTable where
  /-- The address of every stand-in endpoint. -/
  gateway : Ipv4
  ports : PortPool
  /-- Every link that was created. -/
  links : Table LinkId Link := .empty
  byTuple : Table LinkKey LinkId := .empty
  byPort : Table UInt16 LinkId := .empty
  nextId : LinkId := 1

/-- The answer to a request for a link. -/
inductive Allocation where
  /-- The 4-tuple had a link. -/
  | existing (id : LinkId)
  | created (id : LinkId)
  deriving DecidableEq, Repr, Inhabited

def Allocation.id : Allocation → LinkId
  | existing id => id
  | created id => id

namespace LinkTable

def link? (t : LinkTable) (id : LinkId) : Option Link := t.links.get? id

/-- The live link of a 4-tuple. -/
def findTuple (t : LinkTable) (key : LinkKey) : Option Link := t.byTuple.get? key >>= t.link?

/-- The live link of a local port. -/
def findPort (t : LinkTable) (port : UInt16) : Option Link := t.byPort.get? port >>= t.link?

def size (t : LinkTable) : Nat := t.byTuple.size

/-- The identities of the live links. -/
def live (t : LinkTable) : List LinkId := t.byTuple.values

def modify (t : LinkTable) (id : LinkId) (f : Link → Link) : LinkTable :=
  { t with links := t.links.modify id f }

/-- The table with a new link at a port. -/
def create (t : LinkTable) (key : LinkKey) (port : UInt16) (now : Nat) : LinkTable :=
  let link : Link :=
    { id := t.nextId
      source := key.1
      destination := key.2
      standIn := ⟨t.gateway, port⟩
      lastActive := now }
  { t with
    links := t.links.insert link.id link
    byTuple := t.byTuple.insert key link.id
    byPort := t.byPort.insert port link.id
    nextId := t.nextId + 1 }

/-- The link of a 4-tuple, which is created if there is none. A new link gets the next
port that neither a live link nor the host uses. -/
def allocate (t : LinkTable) (key : LinkKey) (reserved : List UInt16) (now : Nat) :
    LinkTable × Except Fault Allocation :=
  match t.byTuple.get? key with
  | some id => (t.modify id (·.touch now), .ok (.existing id))
  | none =>
    match t.ports.allocate t.byPort.contains reserved with
    | (none, ports) => ({ t with ports := ports }, .error .portsExhausted)
    | (some port, ports) =>
      ({ t with ports := ports }.create key port now, .ok (.created t.nextId))

/-- The table without a live link, which is disposed of. -/
def drop (t : LinkTable) (l : Link) : LinkTable :=
  { t with
    links := t.links.modify l.id Link.dispose
    byTuple := t.byTuple.erase l.key
    byPort := t.byPort.erase l.port }

/-- Closes the link of a 4-tuple. Returns the link as it was. -/
def closeTuple? (t : LinkTable) (key : LinkKey) : Option (LinkTable × Link) :=
  (t.findTuple key).map fun l => (t.drop l, l)

/-- Closes a link if it is live. Returns the link as it was. -/
def closeLink? (t : LinkTable) (id : LinkId) : Option (LinkTable × Link) := do
  let l ← t.link? id
  if t.byTuple.get? l.key = some id then some (t.drop l, l) else none

/-- Closes every live link. Returns the links as they were. -/
def clear (t : LinkTable) : LinkTable × List Link :=
  let ids := t.live
  ({ t with
      links := ids.foldl (fun links id => links.modify id Link.dispose) t.links
      byTuple := .empty
      byPort := .empty },
    ids.filterMap t.link?)

end LinkTable

end GuestNat
