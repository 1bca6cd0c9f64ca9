import GuestNat.Net.Address
import GuestNat.Text.Printable

/-!
# Quoted text

Text shown inside double quotes. The quote and the backslash are escaped by a
backslash, four control characters by a letter, and every other character that
cannot be shown by its code point in hexadecimal.
-/
namespace GuestNat

/-- A number in lower-case hexadecimal without leading zeros. -/
def hexText (n : Nat) : List Char :=
  if n < 16 then [hexDigit n] else hexText (n / 16) ++ [hexDigit (n % 16)]

/-- A character as it stands between the quotes. -/
def escapeChar (c : Char) : List Char :=
  if c = '"' ∨ c = '\\' then ['\\', c]
  else if c = '\n' then ['\\', 'n']
  else if c = '\r' then ['\\', 'r']
  else if c = '\t' then ['\\', 't']
  else if c = '\x00' then ['\\', '0']
  else if isPrintable c then [c]
  else ['\\', 'u', '\x7b'] ++ hexText c.toNat ++ ['\x7d']

/-- A text in double quotes. -/
def quoted (s : String) : String :=
  String.ofList ('"' :: s.toList.flatMap escapeChar ++ ['"'])

end GuestNat
