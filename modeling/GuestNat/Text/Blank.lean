/-!
# Lines and fields

A text is cut into lines at each line feed, and a line into fields at each blank.
A blank is any character with the white-space property, not only the ASCII ones;
a carriage return is one, so it needs no rule of its own at the end of a line.
-/
namespace GuestNat

/-- Whether a character has the white-space property. -/
def isBlank (c : Char) : Bool :=
  let n := c.toNat
  (9 ≤ n ∧ n ≤ 13) ∨ n = 0x20 ∨ n = 0x85 ∨ n = 0xa0 ∨ n = 0x1680 ∨
    (0x2000 ≤ n ∧ n ≤ 0x200a) ∨ n = 0x2028 ∨ n = 0x2029 ∨ n = 0x202f ∨ n = 0x205f ∨ n = 0x3000

/-- The pieces between the characters at which a text is cut. There is one more
than there are cuts, and a piece may be empty. -/
def pieces (cut : Char → Bool) (cs : List Char) : List (List Char) :=
  cs.foldr
    (fun c found =>
      if cut c then [] :: found
      else match found with
        | [] => [[c]]
        | p :: ps => (c :: p) :: ps)
    [[]]

theorem pieces_cut {cut : Char → Bool} {c : Char} (h : cut c) (cs : List Char) :
    pieces cut (c :: cs) = [] :: pieces cut cs := by
  simp [pieces, h]

/-- The lines of a text. -/
def lines (cs : List Char) : List (List Char) := pieces (· = '\n') cs

/-- The fields of a line: its pieces between blanks that are not empty. -/
def fields (cs : List Char) : List (List Char) := (pieces isBlank cs).filter (· ≠ [])

end GuestNat
