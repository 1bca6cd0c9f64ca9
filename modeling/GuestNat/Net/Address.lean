import GuestNat.Bytes

/-!
# Internet addresses and endpoints

Addresses are stored as their octets or groups. An endpoint is an IPv4 address
with a port; a socket address is an endpoint of either family, and an IPv6 address
may have a zone there. The text of an IPv6 address is its canonical form: lower case,
no leading zeros, and the longest run of at least two zero groups (the first on a
tie) written as two colons. An IPv4-mapped address ends in dotted decimals.
-/
namespace GuestNat

/-- An IPv4 address, by its four octets. -/
structure Ipv4 where
  a : UInt8
  b : UInt8
  c : UInt8
  d : UInt8
  deriving DecidableEq, Repr, Inhabited

/-- An IPv6 address, by its eight 16-bit groups. -/
structure Ipv6 where
  groups : Vector UInt16 8
  deriving DecidableEq, Repr, Inhabited

inductive Address where
  | v4 (ip : Ipv4)
  | v6 (ip : Ipv6)
  deriving DecidableEq, Repr, Inhabited

/-- An IPv4 address and a port. -/
structure Endpoint where
  ip : Ipv4
  port : UInt16
  deriving DecidableEq, Repr, Inhabited

/-- An IPv6 address, its zone and a port. Zone 0 is none. -/
structure Endpoint6 where
  ip : Ipv6
  zone : UInt32 := 0
  port : UInt16
  deriving DecidableEq, Repr, Inhabited

inductive SocketAddress where
  | v4 (endpoint : Endpoint)
  | v6 (endpoint : Endpoint6)
  deriving DecidableEq, Repr, Inhabited

/-- The octets of an address in network order. -/
def Ipv4.octets (ip : Ipv4) : Bytes := [ip.a, ip.b, ip.c, ip.d]

@[simp] theorem Ipv4.length_octets (ip : Ipv4) : ip.octets.length = 4 := rfl

def Ipv6.octets (ip : Ipv6) : Bytes := ip.groups.toList.flatMap be16

def Ipv6.ofGroups? (gs : List UInt16) : Option Ipv6 :=
  if h : gs.length = 8 then some ⟨⟨gs.toArray, by simpa using h⟩⟩ else none

/-- Dotted decimals. -/
def Ipv4.text (ip : Ipv4) : String :=
  s!"{ip.a.toNat}.{ip.b.toNat}.{ip.c.toNat}.{ip.d.toNat}"

/-- The lower-case hexadecimal digit of a number below sixteen. -/
def hexDigit (n : Nat) : Char :=
  if n < 10 then Char.ofNat (48 + n) else Char.ofNat (87 + n)

/-- A group in lower-case hexadecimal without leading zeros. -/
def groupText (g : UInt16) : String :=
  let n := g.toNat
  let digits := [n / 4096 % 16, n / 256 % 16, n / 16 % 16, n % 16]
  match digits.dropWhile (· = 0) with
  | [] => "0"
  | ds => String.ofList (ds.map hexDigit)

/-- The number of zero groups at the front of a list. -/
def zeroRun (gs : List UInt16) : Nat := (gs.takeWhile (· = 0)).length

/-- The start and the length of the longest run of zero groups, the first on a tie. -/
def longestZeroRun (gs : List UInt16) : Nat × Nat :=
  (List.range gs.length).foldl
    (fun best i => if best.2 < zeroRun (gs.drop i) then (i, zeroRun (gs.drop i)) else best) (0, 0)

/-- The canonical text of an IPv6 address. -/
def Ipv6.text (ip : Ipv6) : String :=
  let gs := ip.groups.toList
  match gs with
  | [0, 0, 0, 0, 0, 0xffff, hi, lo] =>
    "::ffff:" ++ s!"{hi.toNat / 256}.{hi.toNat % 256}.{lo.toNat / 256}.{lo.toNat % 256}"
  | _ =>
    let joined := fun l : List UInt16 => ":".intercalate (l.map groupText)
    let (start, len) := longestZeroRun gs
    if len < 2 then joined gs
    else joined (gs.take start) ++ "::" ++ joined (gs.drop (start + len))

def Address.text : Address → String
  | .v4 ip => ip.text
  | .v6 ip => ip.text

/-- Address, colon, port. -/
def Endpoint.text (e : Endpoint) : String := s!"{e.ip.text}:{e.port.toNat}"

/-- The address in brackets, colon, port. A zone follows the address after a percent sign. -/
def Endpoint6.text (e : Endpoint6) : String :=
  let zone := if e.zone = 0 then "" else s!"%{e.zone.toNat}"
  s!"[{e.ip.text}{zone}]:{e.port.toNat}"

def SocketAddress.text : SocketAddress → String
  | .v4 e => e.text
  | .v6 e => e.text

end GuestNat
