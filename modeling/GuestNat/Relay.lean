import GuestNat.Engine.Run
import GuestNat.Stream

/-!
# Relays

A relay carries payload between a client that the host's listener has accepted and
the socket of its link, both ways at once. Each way reads its stream a buffer at a
time, writes what it has read and counts it on the link; behind the last octet it
announces the end. A way that fails stops, and the other goes on.
-/
namespace GuestNat

/-- One way of a relay. -/
structure Pipe where
  source : Source := {}
  sink : Sink := {}
  /-- How it came to its end, once it has. -/
  result : Option (Except Fault Unit) := none

namespace Pipe

/-- How much is read at a time. -/
def bufferSize : Nat := 16384

/-- Reads once and writes what was read, or announces the end of the stream. Returns how
many octets were carried. -/
def step (p : Pipe) : Pipe × Nat :=
  if p.result.isSome then (p, 0)
  else
    match p.source.read bufferSize with
    | (source, .error fault) => ({ p with source, result := some (.error fault) }, 0)
    | (source, .ok []) =>
      let (sink, result) := p.sink.finish
      ({ source, sink, result := some result }, 0)
    | (source, .ok bs) =>
      match p.sink.write bs with
      | (sink, .ok ()) => ({ p with source, sink }, bs.length)
      | (sink, .error fault) => ({ source, sink, result := some (.error fault) }, 0)

theorem step_of_result {p : Pipe} (h : p.result.isSome) : p.step = (p, 0) := by simp [step, h]

/-- The number of steps that bring a pipe to its end: one for each buffer of each chunk,
and one behind the last. -/
def turns (p : Pipe) : Nat :=
  p.source.chunks.foldl (fun n c => n + (c.length / bufferSize + 1)) 1

end Pipe

/-- The traffic between a client and the socket of its link. -/
structure Relay where
  link : LinkId
  /-- From the client to the socket. -/
  outward : Pipe := {}
  /-- From the socket to the client. -/
  homeward : Pipe := {}

namespace Relay

/-- One of the two that a relay joins. -/
inductive Party where
  | client
  | socket
  deriving DecidableEq, Repr, Inhabited

/-- The relay after one of the two was read once, and what the engine learns of it. -/
def step (r : Relay) : Party → Relay × List Event
  | .client =>
    let (outward, n) := r.outward.step
    ({ r with outward }, if n = 0 then [] else [.carried r.link (UInt64.ofNat n) 0])
  | .socket =>
    let (homeward, n) := r.homeward.step
    ({ r with homeward }, if n = 0 then [] else [.carried r.link 0 (UInt64.ofNat n)])

def run (r : Relay) : List Party → Relay × List Event
  | [] => (r, [])
  | p :: ps =>
    let (r, now) := r.step p
    let (r, later) := r.run ps
    (r, now ++ later)

/-- Runs both ways to their ends. -/
def finish (r : Relay) : Relay × List Event :=
  r.run (.replicate r.outward.turns .client ++ .replicate r.homeward.turns .socket)

end Relay

/-- The link of a client that the host's listener accepted, and the socket that its payload
is relayed to. A client without them is turned away. -/
def Engine.serve (e : Engine) (peer : SocketAddress) : Option (Link × SocketId) :=
  (e.acceptClient peer).bind fun l => l.socket.map (l, ·)

end GuestNat
