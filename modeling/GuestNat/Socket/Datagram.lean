import GuestNat.Socket.Stream

/-!
# Datagram sockets

A socket for single messages. A message that is longer than the buffer it is
received into is cut.
-/
namespace GuestNat

structure DatagramSocket where
  /-- The messages that have arrived, oldest first. -/
  inbox : List Bytes := []
  closed : Bool := false
  deriving DecidableEq, Repr, Inhabited

namespace DatagramSocket

/-- Sends a message. Returns its length. -/
def send (s : DatagramSocket) (payload : Bytes) : Except Fault Nat :=
  if s.closed then .error .socketClosed else .ok payload.length

def arrive (s : DatagramSocket) (payload : Bytes) : DatagramSocket :=
  { s with inbox := s.inbox ++ [payload] }

/-- Closes the socket. Again has no effect. -/
def close (s : DatagramSocket) : DatagramSocket := { s with closed := true }

/-- Receives the oldest message into a buffer of a size. There is no result while none has
arrived. -/
def receive (s : DatagramSocket) (size : Nat) : DatagramSocket × Option (Except Fault Bytes) :=
  if s.closed then (s, some (.error .socketClosed))
  else
    match s.inbox with
    | [] => (s, none)
    | m :: rest => ({ s with inbox := rest }, some (.ok (m.take size)))

/-- A receive that has begun when the socket is closed. If it waits then, it fails. -/
def receiveThenClose (s : DatagramSocket) (size : Nat) : DatagramSocket × Except Fault Bytes :=
  let (s, result) := s.receive size
  (s.close, result.getD (.error .socketClosed))

end DatagramSocket

end GuestNat
