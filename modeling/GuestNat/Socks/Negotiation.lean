import GuestNat.Socks.Dialogue
import GuestNat.Socks.Message

/-!
# SOCKS5 negotiation

The client offers its methods, authenticates if the server asks for it, requests a
connection and reads the whole reply, so that the next octet on the stream is the
first of the tunnel.
-/
namespace GuestNat.Socks

inductive Refusal where
  | selectionVersion (version : UInt8)
  | noMethod
  | credentialsMissing
  | rejected
  | replyVersion (version : UInt8)
  | notConnected (target : SocketAddress) (reply : Reply)
  | addressType (kind : UInt8)
  deriving DecidableEq, Repr

def Refusal.message : Refusal → String
  | selectionVersion v => s!"unexpected version {v.toNat} in method selection"
  | noMethod => "no acceptable auth method"
  | credentialsMissing => "server requires credentials but none are configured"
  | rejected => "authentication rejected"
  | replyVersion v => s!"unexpected version {v.toNat} in reply"
  | notConnected target reply => s!"CONNECT {target.text} failed: {reply.text}"
  | addressType kind => s!"unknown address type {kind.toNat} in reply"

/-- Ends a negotiation. -/
def refuse (r : Refusal) : Dialogue := .fail (.proxy r.message)

/-- Reads the address and the port that a reply ends with. -/
def readBound (kind : UInt8) : Dialogue :=
  if kind = 1 then .skip 6 .done
  else if kind = 4 then .skip 18 .done
  else if kind = 3 then .read fun length => .skip (length.toNat + 2) .done
  else refuse (.addressType kind)

/-- Requests a connection and reads the reply. -/
def requestConnect (target : SocketAddress) : Dialogue :=
  .write (connectRequest target) <|
  .read fun version => .read fun code => .read fun _ => .read fun kind =>
    if version ≠ 5 then refuse (.replyVersion version)
    else if Reply.ofByte code ≠ .succeeded then
      refuse (.notConnected target (Reply.ofByte code))
    else readBound kind

/-- Sends the credentials and goes on if the server takes them. -/
def authenticate (credentials : Option Credentials) (next : Dialogue) : Dialogue :=
  match credentials with
  | none => refuse .credentialsMissing
  | some c =>
    .write c.request <| .read fun _ => .read fun status =>
      if status ≠ 0 then refuse .rejected else next

/-- The client's side of a negotiation. -/
def negotiate (credentials : Option Credentials) (target : SocketAddress) : Dialogue :=
  .write (greeting credentials) <| .read fun version => .read fun method =>
    if version ≠ 5 then refuse (.selectionVersion version)
    else match Method.ofByte method with
      | .none => requestConnect target
      | .password => authenticate credentials (requestConnect target)
      | .unacceptable => refuse .noMethod

end GuestNat.Socks
