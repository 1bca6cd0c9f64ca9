import GuestNat.Bytes
import GuestNat.Fault

/-!
# Stream sockets

The socket of a link, with the octets under way between it and its peer. Closing is
local: it fails what is asked of the socket afterwards and what waits at that moment,
while the peer still reads what was sent before.
-/
namespace GuestNat

/-- The octets under way in one direction of a connection. -/
structure Channel where
  waiting : Bytes := []
  /-- Whether the writer has announced the end. -/
  ended : Bool := false
  deriving DecidableEq, Repr, Inhabited

namespace Channel

def write (c : Channel) (bs : Bytes) : Channel := { c with waiting := c.waiting ++ bs }

def finish (c : Channel) : Channel := { c with ended := true }

/-- Takes out what has arrived, at most a number of octets. -/
def read (c : Channel) (most : Nat) : Channel × Bytes :=
  ({ c with waiting := c.waiting.drop most }, c.waiting.take most)

end Channel

/-- The fault of using a socket that was closed. -/
def Fault.socketClosed : Fault := .socket "socket closed"

/-- The fault of sending behind the announced end. -/
def Fault.brokenPipe : Fault := .host "Broken pipe (os error 32)"

/-- A stream socket and its peer. -/
structure StreamSocket where
  /-- From the peer. -/
  inbound : Channel := {}
  /-- To the peer. -/
  outbound : Channel := {}
  closed : Bool := false
  deriving DecidableEq, Repr, Inhabited

namespace StreamSocket

/-- Sends octets. Returns their number. -/
def send (s : StreamSocket) (bs : Bytes) : StreamSocket × Except Fault Nat :=
  if s.closed then (s, .error .socketClosed)
  else if s.outbound.ended ∧ bs ≠ [] then (s, .error .brokenPipe)
  else ({ s with outbound := s.outbound.write bs }, .ok bs.length)

/-- Receives what has arrived. A closed socket receives nothing. -/
def receive (s : StreamSocket) (most : Nat) : StreamSocket × Bytes :=
  if s.closed then (s, [])
  else
    let (inbound, bs) := s.inbound.read most
    ({ s with inbound }, bs)

def shutdown (s : StreamSocket) : StreamSocket × Except Fault Unit :=
  if s.closed then (s, .error .socketClosed)
  else ({ s with outbound := s.outbound.finish }, .ok ())

/-- Closes the socket. Again has no effect. -/
def close (s : StreamSocket) : StreamSocket := { s with closed := true }

/-- A receive that has begun when the socket is closed. If it waits then, it receives
nothing. -/
def receiveThenClose (s : StreamSocket) (most : Nat) : StreamSocket × Bytes :=
  let (s, bs) := s.receive most
  (s.close, bs)

/-- A send that waits for a peer that does not read, when the socket is closed. -/
def sendThenClose (s : StreamSocket) : StreamSocket × Fault :=
  (s.close, if !s.closed && s.outbound.ended then .brokenPipe else .socketClosed)

end StreamSocket

end GuestNat
