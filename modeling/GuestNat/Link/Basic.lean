import GuestNat.Link.State

/-!
# Links

A link stands for one TCP connection of the guest: the four numbers that identify
it, the host-side endpoint that stands in for the guest, the state inferred from
its segments, and the socket that carries its payload. Time only moves the
activity of a link forward.
-/
namespace GuestNat

/-- The identity of a link, unique in its table. -/
abbrev LinkId := UInt64

abbrev SocketId := Nat

/-- The 4-tuple of a connection of the guest: its source and its destination. -/
abbrev LinkKey := Endpoint × Endpoint

/-- One translated TCP connection. -/
structure Link where
  id : LinkId
  source : Endpoint
  /-- The endpoint the guest connects to. -/
  destination : Endpoint
  /-- The endpoint on the host side that stands in for the guest. -/
  standIn : Endpoint
  state : LinkState := {}
  /-- The translated request that waits for the socket to connect. -/
  pending : Option Segment := none
  socket : Option SocketId := none
  lastActive : Nat
  /-- The time at which a sweep first took the socket away. -/
  finalSince : Option Nat := none
  /-- Whether the link has left its table. -/
  closed : Bool := false
  sent : UInt64 := 0
  received : UInt64 := 0
  deriving DecidableEq, Repr, Inhabited

namespace Link

def key (l : Link) : LinkKey := (l.source, l.destination)

/-- The local port of the link. -/
def port (l : Link) : UInt16 := l.standIn.port

/-- The stage of the link. An established link that a sweep has begun to finalize is
closing. -/
def stage (l : Link) : Stage :=
  match l.state.stage with
  | .connected => if l.finalSince.isSome then .closing else .connected
  | s => s

/-- The link after a segment seen on a side. -/
def observe (l : Link) (side : Side) (segment : Segment) : Link :=
  { l with state := l.state.observe side segment l.socket.isSome }

/-- The link with activity noted at a time. -/
def touch (l : Link) (now : Nat) : Link := { l with lastActive := max l.lastActive now }

def idle (l : Link) (now : Nat) : Nat := now - l.lastActive

/-- The link with its socket attached, unless the link is closed. -/
def attach? (l : Link) (socket : SocketId) : Option Link :=
  if l.closed then none else some { l with socket := some socket }

def detach (l : Link) : Link := { l with socket := none }

/-- The link with its grace period begun, unless it has begun before. -/
def beginFinal (l : Link) (now : Nat) : Link :=
  { l with finalSince := some (l.finalSince.getD now) }

/-- The link as it leaves its table: closed, without a waiting request or a socket. -/
def dispose (l : Link) : Link := { l with closed := true, pending := none, socket := none }

/-- The link after traffic of its payload. -/
def carry (l : Link) (sent received : UInt64) : Link :=
  { l with sent := l.sent + sent, received := l.received + received }

end Link

end GuestNat
