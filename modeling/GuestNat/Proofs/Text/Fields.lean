import GuestNat.Text.Blank
import Mathlib.Data.List.Basic

/-!
# Lines of a text and fields of a line

A text that is written line by line, with line feeds between the lines, has just these lines
(`lines_intercalate`). The fields of a line are the words that stand on it with blanks around them,
whatever the blanks are (`fields_eq_iff`).
-/
namespace GuestNat

lemma pieces_eq_splitOnP (cut : Char → Bool) (cs : List Char) :
    pieces cut cs = cs.splitOnP cut := by
  unfold pieces
  induction cs with
  | nil => rfl
  | cons c cs ih =>
    rw [List.foldr_cons, List.splitOnP_cons_eq_if_modifyHead, ih]
    by_cases hc : cut c
    · rw [if_pos hc, if_pos hc]
    · rw [if_neg hc, if_neg hc]
      cases h : cs.splitOnP cut with
      | nil => exact absurd h (List.splitOnP_ne_nil cut cs)
      | cons p ps => rfl

/-- Lines with line feeds between them are read one by one. -/
theorem lines_intercalate {ls : List (List Char)} (hne : ls ≠ []) (h : ∀ l ∈ ls, '\n' ∉ l) :
    lines (['\n'].intercalate ls) = ls := by
  have hcut : (fun c : Char => decide (c = '\n')) = (· == '\n') := rfl
  rw [lines, pieces_eq_splitOnP, hcut]
  exact List.splitOn_intercalate '\n' h hne

/-- A text with at least one character and no blank. -/
def IsWord (cs : List Char) : Prop := cs ≠ [] ∧ ∀ c ∈ cs, isBlank c = false

/-- Words that stand on a line. There may be blanks in front of a word, and there is one behind
it unless the line ends. -/
inductive Laid : List (List Char) → List Char → Prop
  | blanks {gap : List Char} (hgap : ∀ c ∈ gap, isBlank c = true) : Laid [] gap
  | word {gap word rest : List Char} {words : List (List Char)}
      (hgap : ∀ c ∈ gap, isBlank c = true) (hword : IsWord word)
      (hend : ∀ c ∈ rest.head?, isBlank c = true) (hrest : Laid words rest) :
      Laid (word :: words) (gap ++ word ++ rest)

section Fields

variable {c : Char} {gap word rest line : List Char} {words : List (List Char)}

lemma fields_cons_of_blank (hc : isBlank c = true) : fields (c :: rest) = fields rest := by
  rw [fields, pieces_cut hc, List.filter_cons_of_neg (by simp), fields]

lemma fields_append_of_blanks (hgap : ∀ c ∈ gap, isBlank c = true) :
    fields (gap ++ rest) = fields rest := by
  induction gap with
  | nil => rfl
  | cons c gap ih =>
    obtain ⟨hc, hgap⟩ := List.forall_mem_cons.mp hgap
    rw [List.cons_append, fields_cons_of_blank hc, ih hgap]

lemma fields_append_of_word (hword : IsWord word) (hend : ∀ c ∈ rest.head?, isBlank c = true) :
    fields (word ++ rest) = word :: fields rest := by
  obtain ⟨hne, hblanks⟩ := hword
  cases rest with
  | nil =>
    rw [List.append_nil, fields, pieces_eq_splitOnP, List.splitOnP_eq_singleton hblanks,
      List.filter_cons_of_pos (by simpa using hne)]
    rfl
  | cons c rest =>
    have hc : isBlank c = true := hend c rfl
    rw [fields_cons_of_blank hc, fields, pieces_eq_splitOnP,
      List.splitOnP_append_cons_of_forall_mem hblanks c hc,
      List.filter_cons_of_pos (by simpa using hne), ← pieces_eq_splitOnP, fields]

lemma Laid.cons_of_blank (hc : isBlank c = true) (h : Laid words line) :
    Laid words (c :: line) := by
  cases h with
  | blanks hgap => exact .blanks (List.forall_mem_cons.mpr ⟨hc, hgap⟩)
  | word hgap hword hend hrest =>
    exact .word (List.forall_mem_cons.mpr ⟨hc, hgap⟩) hword hend hrest

lemma Laid.of_word (hword : IsWord word) (hend : ∀ c ∈ rest.head?, isBlank c = true)
    (h : Laid words rest) : Laid (word :: words) (word ++ rest) :=
  .word (List.forall_mem_nil _) hword hend h

/-- A character other than a blank belongs to the word that begins behind it, or is one. -/
lemma Laid.cons_of_not_blank (hc : isBlank c = false) (h : Laid words line) :
    ∃ words, Laid words (c :: line) := by
  by_cases hend : ∀ x ∈ line.head?, isBlank x = true
  · have hsingle : IsWord [c] := ⟨List.cons_ne_nil c [], List.forall_mem_singleton.mpr hc⟩
    exact ⟨[c] :: words, .of_word hsingle hend h⟩
  · cases h with
    | blanks hgap => exact absurd (fun x hx => hgap x (List.mem_of_mem_head? hx)) hend
    | @word gap word rest words hgap hword hsep hrest =>
      cases gap with
      | nil =>
        have hlong : IsWord (c :: word) :=
          ⟨List.cons_ne_nil c word, List.forall_mem_cons.mpr ⟨hc, hword.2⟩⟩
        exact ⟨(c :: word) :: words, .of_word hlong hsep hrest⟩
      | cons x gap =>
        refine absurd ?_ hend
        intro y hy
        obtain rfl := Option.some.inj hy
        exact hgap x List.mem_cons_self

lemma exists_laid (line : List Char) : ∃ words, Laid words line := by
  induction line with
  | nil => exact ⟨[], .blanks (by simp)⟩
  | cons c line ih =>
    obtain ⟨words, h⟩ := ih
    cases hc : isBlank c with
    | true => exact ⟨words, h.cons_of_blank hc⟩
    | false => exact h.cons_of_not_blank hc

lemma Laid.fields_eq (h : Laid words line) : fields line = words := by
  induction h with
  | @blanks gap hgap =>
    rw [← List.append_nil gap, fields_append_of_blanks hgap]
    rfl
  | word hgap hword hend hrest ih =>
    rw [List.append_assoc, fields_append_of_blanks hgap, fields_append_of_word hword hend, ih]

/-- The fields of a line are the words on it. -/
theorem fields_eq_iff : fields line = words ↔ Laid words line := by
  constructor
  · rintro rfl
    obtain ⟨words, h⟩ := exists_laid line
    rwa [h.fields_eq]
  · exact Laid.fields_eq

lemma laid_intercalate (hwords : ∀ w ∈ words, IsWord w) : Laid words ([' '].intercalate words) := by
  induction words with
  | nil => exact .blanks (List.forall_mem_nil _)
  | cons w ws ih =>
    obtain ⟨hw, hws⟩ := List.forall_mem_cons.mp hwords
    have hspace : isBlank ' ' = true := by decide
    cases ws with
    | nil =>
      have hline := Laid.of_word hw (by simp) (.blanks (List.forall_mem_nil _))
      rw [List.append_nil] at hline
      rwa [List.intercalate_singleton]
    | cons w' ws =>
      rw [List.intercalate_cons_cons, List.append_assoc]
      exact .of_word hw (by simpa using hspace) ((ih hws).cons_of_blank hspace)

lemma not_mem_intercalate (hwords : ∀ w ∈ words, IsWord w) (hc : isBlank c = true) (hne : c ≠ ' ') :
    c ∉ [' '].intercalate words := by
  induction words with
  | nil => exact List.not_mem_nil
  | cons w ws ih =>
    obtain ⟨hw, hws⟩ := List.forall_mem_cons.mp hwords
    have hfirst : c ∉ w := by
      intro hmem
      rw [hw.2 c hmem] at hc
      cases hc
    cases ws with
    | nil => rwa [List.intercalate_singleton]
    | cons w' ws =>
      rw [List.intercalate_cons_cons, List.append_assoc, List.mem_append, List.mem_append,
        List.mem_singleton]
      rintro (hmem | rfl | hmem)
      · exact hfirst hmem
      · exact hne rfl
      · exact ih hws hmem

end Fields

end GuestNat
