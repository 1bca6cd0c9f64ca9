import GuestNat.Fault
import GuestNat.Net.AddressText

/-!
# SOCKS5 messages

What the client sends and the codes that the server answers with: the methods of
authentication, the username and password of RFC 1929, and the request to connect
and its replies of RFC 1928.
-/
namespace GuestNat.Socks

inductive Method where
  | none
  | password
  | unacceptable
  deriving DecidableEq, Repr, Inhabited

def Method.ofByte (b : UInt8) : Method :=
  if b = 0 then .none else if b = 2 then .password else .unacceptable

def Method.toByte : Method → UInt8
  | none => 0
  | password => 2
  | unacceptable => 255

/-- The answer to a request to connect. -/
inductive Reply where
  | succeeded
  | generalFailure
  | notAllowed
  | networkUnreachable
  | hostUnreachable
  | refused
  | ttlExpired
  | commandNotSupported
  | addressTypeNotSupported
  deriving DecidableEq, Repr, Inhabited

namespace Reply

/-- The reply with a code. Unassigned codes are general failures. -/
def ofByte (b : UInt8) : Reply :=
  match b.toNat with
  | 0 => succeeded
  | 2 => notAllowed
  | 3 => networkUnreachable
  | 4 => hostUnreachable
  | 5 => refused
  | 6 => ttlExpired
  | 7 => commandNotSupported
  | 8 => addressTypeNotSupported
  | _ => generalFailure

def toByte : Reply → UInt8
  | succeeded => 0
  | generalFailure => 1
  | notAllowed => 2
  | networkUnreachable => 3
  | hostUnreachable => 4
  | refused => 5
  | ttlExpired => 6
  | commandNotSupported => 7
  | addressTypeNotSupported => 8

def text : Reply → String
  | succeeded => "succeeded"
  | generalFailure => "general SOCKS server failure"
  | notAllowed => "connection not allowed by ruleset"
  | networkUnreachable => "network unreachable"
  | hostUnreachable => "host unreachable"
  | refused => "connection refused"
  | ttlExpired => "TTL expired"
  | commandNotSupported => "command not supported"
  | addressTypeNotSupported => "address type not supported"

end Reply

/-- A username and a password that fit their length octets. -/
structure Credentials where
  username : Bytes
  password : Bytes
  username_ne_nil : username ≠ []
  username_le : username.length ≤ 255
  password_le : password.length ≤ 255

/-- The octets of a text in UTF-8. -/
def utf8 (s : String) : Bytes := s.toUTF8.data.toList

/-- The credentials of a username and a password, if both fit. -/
def Credentials.ofText (username password : String) : Except Fault Credentials :=
  if h : utf8 username ≠ [] ∧ (utf8 username).length ≤ 255 ∧ (utf8 password).length ≤ 255 then
    .ok ⟨utf8 username, utf8 password, h.1, h.2.1, h.2.2⟩
  else .error (.configuration "SOCKS5 username and password must be 1-255 bytes")

/-- The methods that a client offers: none, and the password if it has one. -/
def greeting (credentials : Option Credentials) : Bytes :=
  match credentials with
  | some _ => [5, 2, Method.none.toByte, Method.password.toByte]
  | .none => [5, 1, Method.none.toByte]

def Credentials.request (c : Credentials) : Bytes :=
  [1, UInt8.ofNat c.username.length] ++ c.username ++ [UInt8.ofNat c.password.length] ++ c.password

/-- The type, the address and the port of a target. -/
def targetBytes : SocketAddress → Bytes
  | .v4 e => [1] ++ e.ip.octets ++ be16 e.port
  | .v6 e => [4] ++ e.ip.octets ++ be16 e.port

def connectRequest (target : SocketAddress) : Bytes := [5, 1, 0] ++ targetBytes target

/-- The endpoint of a proxy, whose host must be an address. -/
def proxyEndpoint (host : String) (port : UInt16) : Except Fault SocketAddress :=
  match Address.parse? host with
  | some (.v4 ip) => .ok (.v4 ⟨ip, port⟩)
  | some (.v6 ip) => .ok (.v6 { ip, port })
  | .none => .error (.configuration s!"SOCKS5 server must be an IP address, got {quoted host}")

end GuestNat.Socks
