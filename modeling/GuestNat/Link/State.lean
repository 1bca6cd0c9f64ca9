import GuestNat.Wire.Tcp

/-!
# The state of a link, inferred from its segments

A link follows two TCP machines that it does not drive: the guest's, seen in the
segments that the guest sends, and the host's, seen in the segments that come
back. They meet only where one side acknowledges the FIN of the other. The stage
of a link is what aging needs to know of the two.
-/
namespace GuestNat

/-- The side on which a segment is observed. -/
inductive Side where
  /-- Sent by the guest. -/
  | guest
  /-- Returned by the host. -/
  | host
  deriving DecidableEq, Repr, Inhabited

def Side.peer : Side → Side
  | guest => host
  | host => guest

@[simp] theorem Side.peer_peer (s : Side) : s.peer.peer = s := by cases s <;> rfl

/-- The phase of one TCP machine, in the order in which a connection passes them.
Closed, the phase of a machine that was reset, comes first. -/
inductive Phase where
  | closed
  | synSent
  | synReceived
  | established
  | finWait1
  | finWait2
  | closing
  | lastAck
  deriving DecidableEq, Repr, Inhabited

/-- The place of a phase in the order. -/
def Phase.rank : Phase → Nat
  | closed => 0
  | synSent => 1
  | synReceived => 2
  | established => 3
  | finWait1 => 4
  | finWait2 => 5
  | closing => 6
  | lastAck => 7

instance : LT Phase := ⟨fun p q => p.rank < q.rank⟩

instance : LE Phase := ⟨fun p q => p.rank ≤ q.rank⟩

instance (p q : Phase) : Decidable (p < q) := inferInstanceAs (Decidable (p.rank < q.rank))

instance (p q : Phase) : Decidable (p ≤ q) := inferInstanceAs (Decidable (p.rank ≤ q.rank))

/-- What aging needs to know of a link. -/
inductive Stage where
  /-- The handshake is not complete. -/
  | opening
  /-- Established, and no side has closed. -/
  | connected
  /-- A side has closed or reset, and the other has not finished. -/
  | closing
  /-- Both sides have finished. -/
  | closed
  deriving DecidableEq, Repr, Inhabited

/-- The two machines of a link. It starts as a request of the guest leaves it. -/
structure LinkState where
  host : Phase := .synReceived
  guest : Phase := .synSent
  /-- The sequence number of the last FIN of the host side. -/
  hostFin : UInt32 := 0
  /-- The sequence number of the last FIN of the guest side. -/
  guestFin : UInt32 := 0
  /-- Whether the handshake can still complete. -/
  opening : Bool := true
  /-- Whether a side was reset, or nothing is left to wait for. -/
  finished : Bool := false
  deriving DecidableEq, Repr, Inhabited

namespace LinkState

def phase (s : LinkState) : Side → Phase
  | .guest => s.guest
  | .host => s.host

def setPhase (s : LinkState) (side : Side) (p : Phase) : LinkState :=
  match side with
  | .guest => { s with guest := p }
  | .host => { s with host := p }

/-- The sequence number of the last FIN of a side. -/
def fin (s : LinkState) : Side → UInt32
  | .guest => s.guestFin
  | .host => s.hostFin

def setFin (s : LinkState) (side : Side) (sequence : UInt32) : LinkState :=
  match side with
  | .guest => { s with guestFin := sequence }
  | .host => { s with hostFin := sequence }

/-- The handshake: the host side is established by its SYN and ACK, and the guest side
by its ACK after that. -/
def observeHandshake (s : LinkState) (side : Side) (flags : Flags) : LinkState :=
  if !s.opening then s
  else
    let s := match side with
      | .host =>
        if flags.accepts ∧ s.host < .established then { s with host := .established } else s
      | .guest =>
        if flags.ack ∧ !flags.syn ∧ .established ≤ s.host ∧ s.guest < .established then
          { s with guest := .established }
        else s
    if .established ≤ s.host ∧ .established ≤ s.guest then { s with opening := false } else s

/-- A FIN ends the handshake and starts the close of its side. Without a socket there is
nothing left to wait for. -/
def observeFin (s : LinkState) (side : Side) (segment : Segment) (attached : Bool) : LinkState :=
  if segment.flags.fin then
    let s := { s with opening := false }
    let s := if s.phase side < .lastAck then s.setPhase side .finWait1 else s
    let s := if attached then s else { s with finished := true }
    s.setFin side segment.sequence
  else s

/-- An acknowledgment of the FIN of the peer takes a side to its last phase. -/
def observeAck (s : LinkState) (side : Side) (segment : Segment) : LinkState :=
  if segment.flags.ack ∧ s.phase side < .lastAck ∧ .finWait1 ≤ s.phase side.peer ∧
      segment.acknowledgment = s.fin side.peer + 1 then
    s.setPhase side .lastAck
  else s

/-- The link is finished when both sides are in their last phase. -/
def settle (s : LinkState) : LinkState :=
  if s.host = .lastAck ∧ s.guest = .lastAck then { s with finished := true } else s

/-- The state after a segment seen on a side. `attached` tells whether the link still has
a socket. A reset closes its side whatever else the segment says. -/
def observe (s : LinkState) (side : Side) (segment : Segment) (attached : Bool) : LinkState :=
  if segment.flags.rst then
    { s with finished := true, opening := false }.setPhase side .closed
  else
    (((s.observeHandshake side segment.flags).observeFin side segment attached).observeAck side
      segment).settle

def stage (s : LinkState) : Stage :=
  if (s.finished ∧ (s.host = .closed ∨ s.guest = .closed)) ∨
      (s.host = .lastAck ∧ s.guest = .lastAck) then .closed
  else if s.finished ∨ .finWait1 ≤ s.host ∨ .finWait1 ≤ s.guest then .closing
  else if s.opening then .opening
  else .connected

end LinkState

end GuestNat
