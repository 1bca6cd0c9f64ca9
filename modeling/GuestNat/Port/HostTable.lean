import GuestNat.Net.AddressText
import GuestNat.Text.Blank

/-!
# The connection table of the host

The host lists its TCP connections as text: a header line, then a line for each
connection whose third field is the remote address and port in hexadecimal. The
address is printed as a word of a little-endian host, so its lowest octet is the
first of the address. Lines that do not have this form are skipped.
-/
namespace GuestNat

/-- The number written in hexadecimal, if it is below a limit. A plus sign may stand in
front. -/
def readHexBelow (limit : Nat) (cs : List Char) : Option Nat :=
  let digits := match cs with
    | '+' :: rest => rest
    | _ => cs
  if digits = [] ∨ !digits.all fun c => (digitValue? 16 c).isSome then none
  else
    let n := digitsValue 16 digits
    if n < limit then some n else none

/-- The word that a little-endian host shows for an address. -/
def Ipv4.hostWord (ip : Ipv4) : Nat :=
  ip.a.toNat + 256 * ip.b.toNat + 65536 * ip.c.toNat + 16777216 * ip.d.toNat

/-- The parts before and after the first colon of a field. -/
def splitColon (cs : List Char) : Option (List Char × List Char) :=
  match cs.dropWhile (· ≠ ':') with
  | _ :: port => some (cs.takeWhile (· ≠ ':'), port)
  | [] => none

/-- The remote address, as the word of the host, and the remote port of a line. -/
def remoteOfLine? (line : List Char) : Option (Nat × UInt16) := do
  let field ← (fields line)[2]?
  let (address, port) ← splitColon field
  let address ← readHexBelow 4294967296 address
  let port ← readHexBelow 65536 port
  return (address, UInt16.ofNat port)

/-- A list in ascending order with a port in it, once. -/
def insertPort (p : UInt16) : List UInt16 → List UInt16
  | [] => [p]
  | q :: rest => if p < q then p :: q :: rest else if p = q then q :: rest else q :: insertPort p rest

/-- The distinct ports of a list in ascending order. -/
def sortPorts (ps : List UInt16) : List UInt16 := ps.foldl (fun found p => insertPort p found) []

/-- The remote ports of the connections from an address, in ascending order. -/
def remotePorts (table : List Char) (remote : Ipv4) : List UInt16 :=
  sortPorts <| (lines table).tail.filterMap fun line =>
    match remoteOfLine? line with
    | some (address, port) => if address = remote.hostWord then some port else none
    | none => none

/-- The remote ports listed in a file. A file that cannot be read, or is not text, lists
none. -/
def remotePortsOfFile (content : Option Bytes) (remote : Ipv4) : List UInt16 :=
  match content >>= fun bs => String.fromUTF8? ⟨bs.toArray⟩ with
  | some text => remotePorts text.toList remote
  | none => []

end GuestNat
