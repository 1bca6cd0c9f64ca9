import GuestNat.Net.Address

/-!
# The internet checksum

The checksum of a string of octets is the complement of the ones'-complement sum
of its big-endian 16-bit words; a last odd octet is the high half of a word. The
sum is a residue modulo 65535 in which only the sum of nothing but zeros is
written 0. A string that carries its own checksum sums to 65535.
-/
namespace GuestNat

/-- The sum of the 16-bit words of a string, added to a number. -/
def wordSumFrom (sum : Nat) : Bytes → Nat
  | a :: b :: rest => wordSumFrom (sum + (a.toNat * 256 + b.toNat)) rest
  | [a] => sum + a.toNat * 256
  | [] => sum

/-- The sum of the 16-bit words of a string. -/
def wordSum (bs : Bytes) : Nat := wordSumFrom 0 bs

/-- The representative of a sum in ones'-complement arithmetic on 16 bits. -/
def foldSum (n : Nat) : Nat := if n = 0 then 0 else (n - 1) % 65535 + 1

/-- Whether octets that carry their checksum are intact, given the sum of whatever
else the checksum covers. -/
def sumsToOnes (extra : Nat) (bs : Bytes) : Bool := foldSum (extra + wordSum bs) = 65535

/-- The checksum of octets in which the checksum field is zero, given the sum of
whatever else it covers. -/
def checksum (extra : Nat) (bs : Bytes) : UInt16 :=
  UInt16.ofNat (65535 - foldSum (extra + wordSum bs))

/-- The sum of the pseudo header that transport checksums cover: the addresses, the
protocol number and the length in its 16-bit field. -/
def pseudoSum (source destination : Ipv4) (protocol : UInt8) (length : Nat) : Nat :=
  wordSum (source.octets ++ destination.octets ++ [0, protocol] ++ be16 (UInt16.ofNat length))

theorem wordSumFrom_add (m n : Nat) (bs : Bytes) :
    wordSumFrom (m + n) bs = m + wordSumFrom n bs := by
  fun_induction wordSumFrom n bs with
  | case1 n a b rest ih => rw [wordSumFrom, Nat.add_assoc, ih]
  | case2 n a => simp only [wordSumFrom, Nat.add_assoc]
  | case3 n => rfl

@[simp] theorem wordSum_nil : wordSum [] = 0 := rfl

@[simp] theorem wordSum_singleton (a : UInt8) : wordSum [a] = a.toNat * 256 := by
  simp [wordSum, wordSumFrom]

@[simp] theorem wordSum_cons_cons (a b : UInt8) (rest : Bytes) :
    wordSum (a :: b :: rest) = a.toNat * 256 + b.toNat + wordSum rest := by
  have h := wordSumFrom_add (a.toNat * 256 + b.toNat) 0 rest
  simpa only [wordSum, wordSumFrom, Nat.zero_add, Nat.add_zero] using h

/-- Sums of strings add up where the first string consists of whole words. -/
theorem wordSum_append (as bs : Bytes) (h : as.length % 2 = 0) :
    wordSum (as ++ bs) = wordSum as + wordSum bs := by
  match as, h with
  | [], _ => simp
  | [_], h => simp at h
  | a :: b :: rest, h =>
    have hr : rest.length % 2 = 0 := by
      simp only [List.length_cons] at h
      omega
    simp only [List.cons_append, wordSum_cons_cons, wordSum_append rest bs hr]
    omega

end GuestNat
