import GuestNat.Socks.Message
import Mathlib.Tactic.Common

/-!
# What a server understands

A server reads the octets of a client by RFC 1928 and RFC 1929, without knowing how they were
written: the methods that are offered, a username and a password if it has selected them, and a
request to connect with its destination, which may be an address of either family or a name. Each
reader takes its part from the front and returns the rest, and it reads back what the client
writes (`readGreeting_greeting`, `readLogin_request`, `readConnect_request`). What was said is
understood only if it is read to its end.
-/
namespace GuestNat.Socks

/-- Where a client wants to be connected to. -/
inductive Destination where
  | address (address : Address)
  | name (octets : Bytes)
  deriving DecidableEq, Repr

/-- What a server learns from a client. -/
structure Hello where
  /-- The octets of the methods that the client offers. -/
  methods : Bytes
  /-- The username and the password, if they were sent. -/
  login : Option (Bytes × Bytes)
  destination : Destination
  port : UInt16
  deriving DecidableEq, Repr

/-- A number of octets at the front. -/
def readOctets (n : Nat) (bs : Bytes) : Option (Bytes × Bytes) :=
  if n ≤ bs.length then some (bs.take n, bs.drop n) else none

/-- A field behind the octet that gives its length. -/
def readField : Bytes → Option (Bytes × Bytes)
  | n :: rest => readOctets n.toNat rest
  | [] => none

/-- The methods that are offered in a greeting. -/
def readGreeting : Bytes → Option (Bytes × Bytes)
  | 5 :: rest => readField rest
  | _ => none

/-- The username and the password. -/
def readLogin : Bytes → Option ((Bytes × Bytes) × Bytes)
  | 1 :: rest => do
    let (username, rest) ← readField rest
    let (password, rest) ← readField rest
    return ((username, password), rest)
  | _ => none

/-- The 16-bit words of a string. A last odd octet is dropped. -/
def wordsOf : Bytes → List UInt16
  | hi :: lo :: rest => word16 hi lo :: wordsOf rest
  | _ => []

/-- The destination behind the octet of its kind. -/
def readDestination : Bytes → Option (Destination × Bytes)
  | 1 :: a :: b :: c :: d :: rest => some (.address (.v4 ⟨a, b, c, d⟩), rest)
  | 3 :: rest => do
    let (name, rest) ← readField rest
    return (.name name, rest)
  | 4 :: rest => do
    let (octets, rest) ← readOctets 16 rest
    let ip ← Ipv6.ofGroups? (wordsOf octets)
    return (.address (.v6 ip), rest)
  | _ => none

/-- The destination and the port of a request to connect. -/
def readConnect : Bytes → Option ((Destination × UInt16) × Bytes)
  | 5 :: 1 :: 0 :: rest => do
    match ← readDestination rest with
    | (destination, hi :: lo :: rest) => return ((destination, word16 hi lo), rest)
    | _ => none
  | _ => none

/-- What a server that has selected a method learns from all that a client says. -/
def understand (selected : Method) (said : Bytes) : Option Hello := do
  let (methods, rest) ← readGreeting said
  let (login, rest) ← match selected with
    | .password => (readLogin rest).map fun (login, rest) => (some login, rest)
    | _ => some (none, rest)
  let ((destination, port), rest) ← readConnect rest
  if rest = [] then return { methods, login, destination, port } else none

def offered (credentials : Option Credentials) : Bytes := if credentials.isSome then [0, 2] else [0]

/-- The username and the password that a client sends if it is asked for them. -/
def Credentials.login (c : Credentials) : Bytes × Bytes := (c.username, c.password)

/-- The destination of a target. A zone does not leave the host. -/
def destinationOf : SocketAddress → Destination
  | .v4 e => .address (.v4 e.ip)
  | .v6 e => .address (.v6 e.ip)

def portOf : SocketAddress → UInt16
  | .v4 e => e.port
  | .v6 e => e.port

variable (rest : Bytes)

lemma readOctets_append {n : Nat} {bs : Bytes} (h : bs.length = n) :
    readOctets n (bs ++ rest) = some (bs, rest) := by
  subst h
  simp [readOctets]

lemma readField_append {bs : Bytes} (h : bs.length ≤ 255) :
    readField (UInt8.ofNat bs.length :: (bs ++ rest)) = some (bs, rest) := by
  have hn : (UInt8.ofNat bs.length).toNat = bs.length := by
    rw [UInt8.toNat_ofNat']
    omega
  rw [readField, hn, readOctets_append rest rfl]

lemma readGreeting_greeting (credentials : Option Credentials) :
    readGreeting (greeting credentials ++ rest) = some (offered credentials, rest) := by
  cases credentials with
  | none => exact readField_append rest (by decide : ([0] : Bytes).length ≤ 255)
  | some c => exact readField_append rest (by decide : ([0, 2] : Bytes).length ≤ 255)

lemma readLogin_request (c : Credentials) :
    readLogin (c.request ++ rest) = some (c.login, rest) := by
  have hrequest : c.request ++ rest = 1 :: UInt8.ofNat c.username.length ::
      (c.username ++ UInt8.ofNat c.password.length :: (c.password ++ rest)) := by
    simp [Credentials.request]
  rw [hrequest, readLogin, readField_append _ c.username_le]
  simp only [Option.bind_eq_bind, Option.bind_some, readField_append rest c.password_le]
  rfl

lemma wordsOf_flatMap_be16 (ws : List UInt16) : wordsOf (ws.flatMap be16) = ws := by
  induction ws with
  | nil => rfl
  | cons w ws ih =>
    rw [List.flatMap_cons, be16, List.cons_append, List.cons_append, List.nil_append, wordsOf,
      word16_be16, ih]

lemma length_ipv6_octets (ip : Ipv6) : ip.octets.length = 16 := by
  simp [Ipv6.octets, List.length_flatMap, List.map_const']

lemma ofGroups?_groups (ip : Ipv6) : Ipv6.ofGroups? ip.groups.toList = some ip := by
  rw [Ipv6.ofGroups?, dif_pos ip.groups.length_toList]
  rfl

lemma readConnect_request (target : SocketAddress) :
    readConnect (connectRequest target ++ rest) =
      some ((destinationOf target, portOf target), rest) := by
  cases target with
  | v4 e =>
    simp [connectRequest, targetBytes, Ipv4.octets, be16, readConnect, readDestination,
      word16_be16, destinationOf, portOf]
  | v6 e =>
    have hoctets := readOctets_append (be16 e.port ++ rest) (length_ipv6_octets e.ip)
    simp only [connectRequest, targetBytes, List.cons_append, List.nil_append, List.append_assoc,
      readConnect, readDestination, hoctets, Option.bind_eq_bind, Option.bind_some]
    rw [Ipv6.octets, wordsOf_flatMap_be16, ofGroups?_groups]
    simp [be16, word16_be16, destinationOf, portOf]

/-- All that a client says is understood, by a server that takes it without a password. -/
lemma understand_freely (credentials : Option Credentials) (target : SocketAddress) :
    understand .none (greeting credentials ++ connectRequest target) =
      some ⟨offered credentials, none, destinationOf target, portOf target⟩ := by
  have hconnect := readConnect_request [] target
  rw [List.append_nil] at hconnect
  rw [understand, readGreeting_greeting]
  simp only [Option.bind_eq_bind, Option.bind_some, hconnect]
  rfl

lemma understand_byPassword (c : Credentials) (target : SocketAddress) :
    understand .password (greeting (some c) ++ c.request ++ connectRequest target) =
      some ⟨offered (some c), some c.login, destinationOf target, portOf target⟩ := by
  have hconnect := readConnect_request [] target
  rw [List.append_nil] at hconnect
  rw [understand, List.append_assoc, readGreeting_greeting]
  simp only [Option.bind_eq_bind, Option.bind_some, readLogin_request, Option.map_some, hconnect]
  rfl

end GuestNat.Socks
