import GuestNat.Socket.Stream
import GuestNat.Socks.Negotiation

/-!
# Opening connections

A stream socket is connected to its peer directly, or to a proxy that is asked for
a tunnel. What the proxy sends behind its reply is the first payload of the tunnel.
-/
namespace GuestNat

/-- What answers at an address: nothing, or a server that sends something as soon as it is
connected to. -/
structure Peer where
  listens : Bool := true
  sends : List Bytes := []
  /-- Whether it announces the end behind that. -/
  ends : Bool := false
  deriving Repr, Inhabited

/-- The fault of connecting where nothing answers. -/
def Fault.unreachable : Fault := .host "Network is unreachable (os error 101)"

/-- The fault of a proxy that takes too long. -/
def Fault.tunnelTimeout (target : SocketAddress) (proxy : String) : Fault :=
  .proxy s!"tunnel to {target.text} via {proxy} timed out"

namespace Peer

def connect (p : Peer) : Except Fault StreamSocket :=
  if p.listens then
    .ok { inbound := { waiting := p.sends.flatten, ended := p.ends } }
  else .error .unreachable

/-- Connects to a target through a peer that is a proxy of a name. A proxy that stays
silent while something is expected of it times out. -/
def tunnel (p : Peer) (proxy : String) (credentials : Option Socks.Credentials)
    (target : SocketAddress) : Except Fault StreamSocket :=
  if p.listens then
    let failure := if p.ends then none else some (.tunnelTimeout target proxy)
    let (t, result) := (Socks.negotiate credentials target).run
      { source := { chunks := p.sends, failure } }
    match result with
    | .ok () => .ok {
        inbound := { waiting := t.source.octets, ended := p.ends }
        outbound := { waiting := t.sink.written } }
    | .error fault => .error fault
  else .error .unreachable

end Peer

end GuestNat
