import GuestNat.Engine.Basic

/-!
# Start and stop

Starting installs the routes and begins the periodic sweep; if a route is refused
the engine stays as it was. Stopping closes everything the engine holds and removes
the routes.
-/
namespace GuestNat.Engine

/-- Notes the calls that were made to the routing service. -/
def noteRouting (e : Engine) (answers : List RoutingAnswer) : Engine :=
  { e with outbox := e.outbox ++ answers.map .routed }

/-- Installs the routes and begins to sweep. -/
def start (e : Engine) (w : Surroundings) : Engine × Except Fault Unit :=
  if e.running then (e, .error .alreadyRunning)
  else
    let (answers, result) := Routing.apply w.routing e.config.routes e.config.dns
    let e := e.noteRouting answers
    match result with
    | .ok () => ({ e with running := true }, .ok ())
    | .error fault => (e, .error fault)

/-- Ends the sweep, closes every link and flow, discards fragments and removes the routes. -/
def stop (e : Engine) (w : Surroundings) : Engine × Except Fault Unit :=
  if !e.running then (e, .error .notRunning)
  else
    let (links, closed) := e.links.clear
    let e := ({ e with running := false, links }.hangUp closed).count
      (·.linksWereClosed closed.length)
    let (flows, _, effects) := e.flows.clear
    let e := { e with flows, reassembler := e.reassembler.clear }.absorb w effects
    (e.noteRouting (Routing.withdraw w.routing [] e.config.routes), .ok ())

/-- The link of a client that the host's listener accepted. -/
def acceptClient (e : Engine) : SocketAddress → Option Link
  | .v4 peer => if peer.ip = e.config.gateway then e.links.findPort peer.port else none
  | .v6 _ => none

end GuestNat.Engine
