import GuestNat.Config

/-!
# Routes and name servers of the host

Applying a configuration to the host is all or nothing: the routes are added in
order and then the name servers are set, and where a step is refused the routes
added so far are deleted again, the last one first. A refused deletion neither
stops the others nor replaces the reason.
-/
namespace GuestNat

/-- A request to the routing service of the host. -/
inductive RoutingCall where
  | add (route : Route)
  | delete (route : Route)
  | setDns (servers : List Address)
  deriving DecidableEq, Repr, Inhabited

/-- A routing service, by its answers: given the calls made before and a call, the
reason why it is refused, if it is. -/
abbrev RoutingService := List RoutingCall → RoutingCall → Option Fault

/-- A request and the reason why it was refused, if it was. -/
structure RoutingAnswer where
  call : RoutingCall
  fault : Option Fault
  deriving DecidableEq, Repr, Inhabited

def callsOf (answers : List RoutingAnswer) : List RoutingCall := answers.map (·.call)

namespace Routing

/-- Makes a call after others. -/
def ask (service : RoutingService) (log : List RoutingAnswer) (call : RoutingCall) :
    RoutingAnswer :=
  ⟨call, service (callsOf log) call⟩

/-- Deletes routes, the last one first. Refusals are only noted. -/
def withdraw (service : RoutingService) (log : List RoutingAnswer) (routes : List Route) :
    List RoutingAnswer :=
  routes.reverse.foldl (fun log route => log ++ [ask service log (.delete route)]) log

/-- Adds the remaining routes and sets the name servers, after some routes were added. -/
def applyFrom (service : RoutingService) (dns : List Address) (log : List RoutingAnswer)
    (added : List Route) : List Route → List RoutingAnswer × Except Fault Unit
  | [] =>
    let answer := ask service log (.setDns dns)
    match answer.fault with
    | none => (log ++ [answer], .ok ())
    | some fault => (withdraw service (log ++ [answer]) added, .error fault)
  | route :: rest =>
    let answer := ask service log (.add route)
    match answer.fault with
    | none => applyFrom service dns (log ++ [answer]) (added ++ [route]) rest
    | some fault => (withdraw service (log ++ [answer]) added, .error fault)

/-- Adds routes and sets the name servers. Returns the calls with their answers. -/
def apply (service : RoutingService) (routes : List Route) (dns : List Address) :
    List RoutingAnswer × Except Fault Unit :=
  applyFrom service dns [] [] routes

end Routing

end GuestNat
