import GuestNat.Relay

/-!
# The rehearsal of a relay

One connection from the guest's request to the end of its relay: the request is
read at time zero, the socket connects unless it is held up, and five seconds later
a client connects to the host's listener.
-/
namespace GuestNat.Rehearsal

/-- Who connects to the listener. -/
inductive Client where
  /-- The endpoint that stands in for the guest. -/
  | standIn
  /-- The gateway, on a port that no link has. -/
  | strayPort
  /-- Another host. -/
  | stranger
  deriving DecidableEq, Repr, Inhabited

/-- What the client and the remote side do. -/
structure RelayScript where
  client : Client
  /-- Whether the socket of the link has connected. -/
  connected : Bool := true
  /-- What the client sends, and what becomes of it at the socket. -/
  outward : Pipe := {}
  /-- What the socket receives. -/
  homeward : Pipe := {}

structure RelayReport where
  /-- The relay at its end, if the client was served. -/
  relay : Option Relay
  link : Link

namespace RelayScript

def request : Segment where
  source := ⟨⟨10, 0, 0, 5⟩, 51000⟩
  destination := ⟨⟨93, 184, 216, 34⟩, 80⟩
  sequence := 100
  flags := { syn := true }
  window := 65535

def clientTime : Nat := 5000

/-- The endpoint that a client connects from. -/
def peer (c : Client) (l : Link) : SocketAddress :=
  match c with
  | .standIn => .v4 l.standIn
  | .strayPort => .v4 { l.standIn with port := l.standIn.port + 1 }
  | .stranger => .v4 { l.standIn with ip := request.source.ip }

def perform (s : RelayScript) : Option RelayReport := do
  let e := (Engine.ofConfig {}).step {} (.input request.toFrame.toBytes)
  let l ← e.links.findTuple (request.source, request.destination)
  let e := if s.connected then e.step {} (.connected l.id 1) else e
  let served := (e.serve (peer s.client l)).map fun (l, _) =>
    ({ link := l.id, outward := s.outward, homeward := s.homeward : Relay }).finish
  let events := (served.map (·.2)).getD []
  let e := e.run (events.map ({ now := clientTime }, ·))
  return ⟨served.map (·.1), ← e.links.link? l.id⟩

end RelayScript

end GuestNat.Rehearsal
