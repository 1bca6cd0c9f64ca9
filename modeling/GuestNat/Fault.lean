import GuestNat.Text.Quoted

/-!
# Faults

Everything that can go wrong, by where it went wrong. A fault is shown to people
as a sentence (`message`) and to programmers as a labelled value (`description`).
-/
namespace GuestNat

/-- The reason why an operation failed. -/
inductive Fault where
  | notRunning
  | alreadyRunning
  /-- The state is unusable because an earlier operation was interrupted. -/
  | locked
  /-- A socket could not be opened or used. -/
  | socket (detail : String)
  | portsExhausted
  /-- A proxy refused or broke the protocol. -/
  | proxy (detail : String)
  /-- The host reported an input or output error. -/
  | host (detail : String)
  | routing (detail : String)
  /-- The configuration cannot be used. -/
  | configuration (detail : String)
  deriving DecidableEq, Repr, Inhabited

namespace Fault

def label : Fault → String
  | notRunning => "NotRunning"
  | alreadyRunning => "AlreadyRunning"
  | locked => "LockError"
  | socket _ => "SocketError"
  | portsExhausted => "PortsExhausted"
  | proxy _ => "Socks5Error"
  | host _ => "IoError"
  | routing _ => "Routing"
  | configuration _ => "ConfigError"

/-- The fault with a label and a detail. -/
def ofLabel? (label detail : String) : Option Fault :=
  [notRunning, alreadyRunning, locked, socket detail, portsExhausted, proxy detail, host detail,
    routing detail, configuration detail].find? (·.label = label)

/-- What the fault carries beside its kind. -/
def detail? : Fault → Option String
  | socket d | proxy d | host d | routing d | configuration d => some d
  | _ => none

def message : Fault → String
  | notRunning => "Engine not running"
  | alreadyRunning => "Engine already running"
  | locked => "Lock error"
  | socket d => s!"Socket error: {d}"
  | portsExhausted => "No local port available"
  | proxy d => s!"SOCKS5 error: {d}"
  | host d => s!"IO error: {d}"
  | routing d => s!"Routing error: {d}"
  | configuration d => s!"Configuration error: {d}"

/-- The fault as a labelled value. -/
def description (f : Fault) : String :=
  match f.detail? with
  | none => f.label
  | some d => s!"{f.label}({quoted d})"

end Fault

end GuestNat
