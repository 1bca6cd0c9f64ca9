import GuestNat.Link.Description
import GuestNat.Rehearsal.Reply

/-!
# A link table on its own

Commands to a link table and to the links that it created. Sockets are attached to
links under names, and the desk keeps account of those that were closed.
-/
namespace GuestNat.Rehearsal

/-- A link table, with the sockets that were attached to its links. -/
structure LinkDesk where
  table : LinkTable
  reserved : List UInt16 := []
  /-- The names of the sockets that were attached, by their identities. -/
  names : List String := []
  /-- The sockets that were closed, oldest first. -/
  closed : List SocketId := []
  /-- How many of them were reported. -/
  reported : Nat := 0
  /-- How often the host was asked for its ports. -/
  queries : Nat := 0

inductive LinkCommand where
  | close
  | observe (side : Side) (segment : Segment)
  | touch
  | hold (segment : Segment)
  | release
  | attach (name : String)
  | isSocketClosed
  | closeSocket
  | beginFinal
  | carry (sent received : UInt64)
  | view
  | describe

inductive TableCommand where
  | allocate (key : LinkKey)
  | close (key : LinkKey)
  | findTuple (key : LinkKey)
  | findPort (port : UInt16)
  | snapshot
  | clear
  | reserve (ports : List UInt16)
  | toLink (id : LinkId) (command : LinkCommand)

def liveLinks (t : LinkTable) : List Link :=
  (t.live.filterMap t.link?).mergeSort fun a b => decide (a.id ≤ b.id)

namespace LinkDesk

/-- Keeps account of the sockets of links that were closed. -/
def hangUp (d : LinkDesk) (ls : List Link) : LinkDesk :=
  { d with closed := d.closed ++ ls.filterMap (·.socket) }

def put (d : LinkDesk) (l : Link) : LinkDesk :=
  { d with table := d.table.modify l.id fun _ => l }

def obeyLink (d : LinkDesk) (now : Nat) (l : Link) : LinkCommand → LinkDesk × Reply
  | .close =>
    match d.table.closeLink? l.id with
    | some (table, l) => ({ d with table }.hangUp [l], .flag true)
    | none => (d, .flag false)
  | .observe side segment => (d.put (l.observe side segment), .ok)
  | .touch => (d.put (l.touch now), .ok)
  | .hold segment => (d.put { l with pending := some segment }, .ok)
  | .release => (d.put { l with pending := none }, .segment l.pending)
  | .attach name =>
    let d := { d with names := d.names ++ [name] }
    match l.attach? (d.names.length - 1) with
    | some l => (d.put l, .flag true)
    | none => (d, .flag false)
  | .isSocketClosed =>
    match l.socket with
    | some socket => (d, .flag (d.closed.contains socket))
    | none => (d, .silent)
  | .closeSocket => ((d.put l.detach).hangUp [l], .ok)
  | .beginFinal =>
    let l := l.beginFinal now
    (d.put l, .number (l.finalSince.getD now))
  | .carry sent received => (d.put (l.carry sent received), .ok)
  | .view => (d, .view l)
  | .describe => (d, .text l.description)

def obey (d : LinkDesk) (now : Nat) : TableCommand → LinkDesk × Reply
  | .allocate key =>
    let queries := if d.table.byTuple.contains key then d.queries else d.queries + 1
    let (table, result) := d.table.allocate key d.reserved now
    ({ d with table, queries }, .allocated result)
  | .close key =>
    match d.table.closeTuple? key with
    | some (table, l) => ({ d with table }.hangUp [l], .link (some l.id))
    | none => (d, .link none)
  | .findTuple key => (d, .link ((d.table.findTuple key).map (·.id)))
  | .findPort port => (d, .link ((d.table.findPort port).map (·.id)))
  | .snapshot => (d, .links (liveLinks d.table))
  | .clear =>
    let (table, ls) := d.table.clear
    ({ d with table }.hangUp ls, .number ls.length)
  | .reserve ports => ({ d with reserved := ports }, .ok)
  | .toLink id command =>
    match d.table.link? id with
    | some l => d.obeyLink now l command
    | none => (d, .silent)

/-- Hands out the names of the sockets that were closed since the last report, and the
number of queries to the host, which is counted anew. -/
def report (d : LinkDesk) : LinkDesk × List String × Nat :=
  ({ d with reported := d.closed.length, queries := 0 },
    (d.closed.drop d.reported).filterMap (d.names[·]?), d.queries)

end LinkDesk

end GuestNat.Rehearsal
