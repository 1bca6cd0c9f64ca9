import GuestNat.Net.Address

/-!
# Reading addresses

The strict textual forms. An IPv4 address is four decimal numbers of at most
three digits, without leading zeros. An IPv6 address is eight groups of at most
four hexadecimal digits, where two colons stand for at least one zero group and
the last two groups may be written as an IPv4 address. Ports and zones are decimal
numbers with any number of leading zeros. A reader takes what it needs from the front
and returns the rest.
-/
namespace GuestNat

/-- The value of a digit in a radix up to sixteen; either case. -/
def digitValue? (radix : Nat) (c : Char) : Option Nat :=
  let n := c.toNat
  let value :=
    if 48 ≤ n ∧ n ≤ 57 then n - 48
    else if 97 ≤ n ∧ n ≤ 102 then n - 87
    else if 65 ≤ n ∧ n ≤ 70 then n - 55
    else radix
  if value < radix then some value else none

/-- The number written by a list of digits, most significant first. -/
def digitsValue (radix : Nat) (cs : List Char) : Nat :=
  cs.foldl (fun n c => n * radix + (digitValue? radix c).getD 0) 0

/-- A number of one to `width` digits at the front of a text. Unless `padded`, a
number of several digits does not start with zero. -/
def readNumber (radix width : Nat) (padded : Bool) (cs : List Char) : Option (Nat × List Char) :=
  let isDigit := fun c => (digitValue? radix c).isSome
  let digits := cs.takeWhile isDigit
  if digits = [] ∨ width < digits.length then none
  else if !padded && digits.head? = some '0' && 1 < digits.length then none
  else some (digitsValue radix digits, cs.dropWhile isDigit)

/-- A given character at the front of a text. -/
def readChar (c : Char) : List Char → Option (List Char)
  | x :: rest => if x = c then some rest else none
  | [] => none

def readOctet (cs : List Char) : Option (UInt8 × List Char) := do
  let (n, rest) ← readNumber 10 3 false cs
  if n < 256 then some (UInt8.ofNat n, rest) else none

def readIpv4 (cs : List Char) : Option (Ipv4 × List Char) := do
  let (a, cs) ← readOctet cs
  let (b, cs) ← readOctet (← readChar '.' cs)
  let (c, cs) ← readOctet (← readChar '.' cs)
  let (d, cs) ← readOctet (← readChar '.' cs)
  some (⟨a, b, c, d⟩, cs)

/-- The groups at the front of an IPv6 text. -/
structure GroupRun where
  groups : List UInt16
  /-- Whether the last two groups were written as an IPv4 address. -/
  dotted : Bool
  rest : List Char

/-- At most `slots` groups separated by colons. Where two slots are left an IPv4
address may fill them, and ends the run. -/
def readGroups (slots : Nat) (separated : Bool) (cs : List Char) : GroupRun :=
  match slots with
  | 0 => ⟨[], false, cs⟩
  | n + 1 =>
    match if separated then readChar ':' cs else some cs with
    | none => ⟨[], false, cs⟩
    | some body =>
      match if 1 ≤ n then readIpv4 body else none with
      | some (ip, rest) => ⟨[word16 ip.a ip.b, word16 ip.c ip.d], true, rest⟩
      | none =>
        match readNumber 16 4 true body with
        | none => ⟨[], false, cs⟩
        | some (g, rest) =>
          let tail := readGroups n true rest
          { tail with groups := UInt16.ofNat g :: tail.groups }

def readIpv6 (cs : List Char) : Option (Ipv6 × List Char) := do
  let head := readGroups 8 false cs
  if head.groups.length = 8 then
    return (← Ipv6.ofGroups? head.groups, head.rest)
  if head.dotted then none
  let cs ← readChar ':' (← readChar ':' head.rest)
  let tail := readGroups (7 - head.groups.length) false cs
  let zeros := List.replicate (8 - head.groups.length - tail.groups.length) 0
  return (← Ipv6.ofGroups? (head.groups ++ zeros ++ tail.groups), tail.rest)

/-- The value read, if nothing is left after it. -/
def whole {α : Type} : Option (α × List Char) → Option α
  | some (a, []) => some a
  | _ => none

def Ipv4.parse? (s : String) : Option Ipv4 := whole (readIpv4 s.toList)

def Ipv6.parse? (s : String) : Option Ipv6 := whole (readIpv6 s.toList)

def Address.parse? (s : String) : Option Address :=
  (Ipv4.parse? s).map .v4 <|> (Ipv6.parse? s).map .v6

/-- A decimal number below a limit at the front of a text. -/
def readBelow (limit : Nat) (cs : List Char) : Option (Nat × List Char) := do
  let (n, rest) ← readNumber 10 cs.length true cs
  if n < limit then some (n, rest) else none

/-- A colon and a port. -/
def readPort (cs : List Char) : Option (UInt16 × List Char) := do
  let (n, rest) ← readBelow 65536 (← readChar ':' cs)
  some (UInt16.ofNat n, rest)

/-- A percent sign and a zone, or nothing. -/
def readZone (cs : List Char) : Option (UInt32 × List Char) :=
  match readChar '%' cs with
  | none => some (0, cs)
  | some cs => do
    let (n, rest) ← readBelow 4294967296 cs
    some (UInt32.ofNat n, rest)

def Endpoint.parse? (s : String) : Option Endpoint := whole <| do
  let (ip, cs) ← readIpv4 s.toList
  let (port, cs) ← readPort cs
  some (⟨ip, port⟩, cs)

/-- The IPv6 endpoint a text denotes; its address and zone stand in brackets. -/
def Endpoint6.parse? (s : String) : Option Endpoint6 := whole <| do
  let (ip, cs) ← readIpv6 (← readChar '[' s.toList)
  let (zone, cs) ← readZone cs
  let (port, cs) ← readPort (← readChar ']' cs)
  some (⟨ip, zone, port⟩, cs)

def SocketAddress.parse? (s : String) : Option SocketAddress :=
  (Endpoint.parse? s).map .v4 <|> (Endpoint6.parse? s).map .v6

end GuestNat
