import GuestNat.Link.Basic

/-!
# Links as labelled values

The text that shows a link with its fields, for logs.
-/
namespace GuestNat

def Phase.label : Phase → String
  | closed => "Closed"
  | synSent => "SynSent"
  | synReceived => "SynRcvd"
  | established => "Established"
  | finWait1 => "FinWait1"
  | finWait2 => "FinWait2"
  | closing => "Closing"
  | lastAck => "LastAck"

def Stage.label : Stage → String
  | opening => "Connection"
  | connected => "Connected"
  | closing => "Disconnecting"
  | closed => "Closed"

/-- A labelled value with named fields. -/
def labelled (label : String) (fields : List (String × String)) : String :=
  label ++ " \x7b " ++ ", ".intercalate (fields.map fun f => f.1 ++ ": " ++ f.2) ++ " \x7d"

def LinkState.description (s : LinkState) : String :=
  labelled "LinkState"
    [("local_state", s.host.label), ("virtual_state", s.guest.label),
      ("local_sequence_no", toString s.hostFin.toNat),
      ("virtual_sequence_no", toString s.guestFin.toNat),
      ("syn", toString s.opening), ("fin", toString s.finished)]

def Link.description (l : Link) : String :=
  labelled "Link"
    [("id", toString l.id.toNat), ("source", l.source.text), ("destination", l.destination.text),
      ("virtual_address", l.standIn.text), ("state", l.state.description),
      ("closed", toString l.closed)]

end GuestNat
