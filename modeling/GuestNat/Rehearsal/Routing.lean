import GuestNat.Routing

/-!
# A scripted routing service

A service that refuses to add or delete certain destinations, named by their text, or
to set the name servers, with given reasons, and the text in which its answers are
noted.
-/
namespace GuestNat

/-- What a scripted routing service refuses, and why. -/
structure RoutingScript where
  adds : List (String × String) := []
  deletions : List (String × String) := []
  dns : Option String := none
  deriving Repr, Inhabited

/-- The service of a script. Its answers do not depend on earlier calls. -/
def RoutingScript.service (s : RoutingScript) : RoutingService := fun _ call =>
  let reason := match call with
    | .add route => s.adds.lookup route.destination.text
    | .delete route => s.deletions.lookup route.destination.text
    | .setDns _ => s.dns
  reason.map .routing

def Route.text (r : Route) : String := s!"{r.destination.text}/{r.length.toNat}"

def RoutingCall.text : RoutingCall → String
  | add r => s!"add {r.text}"
  | delete r => s!"del {r.text}"
  | setDns servers => "dns [" ++ ",".intercalate (servers.map Address.text) ++ "]"

def RoutingAnswer.text (a : RoutingAnswer) : String :=
  if a.fault.isSome then a.call.text ++ " !" else a.call.text

end GuestNat
