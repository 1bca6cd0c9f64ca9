import GuestNat.Proofs.Port.Hexadecimal
import GuestNat.Proofs.Text.Fields

/-!
# What the connection table of the host tells

A line shows a connection if its second and third fields are the two endpoints in hexadecimal, in
the order of octets of a little-endian host. Of a table of such lines the ports are read of the
connections from an address, and of no others; a line that is not of this form says nothing,
wherever it stands (`remotePorts_of_listing`).
-/
namespace GuestNat

/-- A connection in the table of the host. -/
structure HostConnection where
  here : Endpoint
  remote : Endpoint
  deriving DecidableEq, Repr

/-- The hexadecimal digits of an octet. -/
def nibbles (b : UInt8) : List Nat := [b.toNat / 16, b.toNat % 16]

/-- A field shows an endpoint: eight digits for the octets of its address, the last octet first,
a colon, and four digits for the port. -/
def Endpoint.ShownBy (e : Endpoint) (field : List Char) : Prop :=
  ∃ address port, field = address ++ ':' :: port ∧
    List.Forall₂ ShowsDigit address (e.ip.octets.reverse.flatMap nibbles) ∧
    List.Forall₂ ShowsDigit port ((be16 e.port).flatMap nibbles)

/-- A line shows a connection: a label, the two endpoints and any further columns. -/
def HostConnection.ShownBy (c : HostConnection) (line : List Char) : Prop :=
  '\n' ∉ line ∧ ∃ label here remote columns, Laid (label :: here :: remote :: columns) line ∧
    c.here.ShownBy here ∧ c.remote.ShownBy remote

/-- The digit in upper case, as the host writes it. -/
def upperDigit (d : Nat) : Char := (hexDigit d).toUpper

/-- The field that shows an endpoint in upper case. -/
def Endpoint.hostText (e : Endpoint) : List Char :=
  (e.ip.octets.reverse.flatMap nibbles).map upperDigit ++
    ':' :: ((be16 e.port).flatMap nibbles).map upperDigit

/-- The line that shows a connection between a label and further columns, with a blank between
each two fields. -/
def HostConnection.text (c : HostConnection) (label : List Char) (columns : List (List Char)) :
    List Char :=
  [' '].intercalate (label :: c.here.hostText :: c.remote.hostText :: columns)

/-- A line from which no remote endpoint can be read. -/
inductive Unreadable (line : List Char) : Prop
  /-- It has fewer than three fields. -/
  | short {words : List (List Char)} (hline : Laid words line) (hwords : words.length < 3)
  /-- The third field is not cut by a colon. -/
  | noColon {label here field : List Char} {columns : List (List Char)}
      (hline : Laid (label :: here :: field :: columns) line) (hcolon : ':' ∉ field)
  /-- What stands before or behind the first colon is no number. -/
  | noNumber {label here address port : List Char} {columns : List (List Char)}
      (hline : Laid (label :: here :: (address ++ ':' :: port) :: columns) line)
      (hfirst : ':' ∉ address)
      (hnumber : (∀ n, ¬HexNumber address n) ∨ ∀ n, ¬HexNumber port n)
  /-- One of the numbers has too many bits for an address or a port. -/
  | tooLarge {label here address port : List Char} {columns : List (List Char)} {n : Nat}
      (hline : Laid (label :: here :: (address ++ ':' :: port) :: columns) line)
      (hfirst : ':' ∉ address)
      (hlarge : HexNumber address n ∧ 2 ^ 32 ≤ n ∨ HexNumber port n ∧ 2 ^ 16 ≤ n)

section Text

lemma lt_of_mem_nibbles {bytes : Bytes} {d : Nat} (h : d ∈ bytes.flatMap nibbles) : d < 16 := by
  obtain ⟨b, -, hb⟩ := List.mem_flatMap.mp h
  have hbound := b.toNat_lt
  simp only [nibbles, List.mem_cons, List.not_mem_nil, or_false] at hb
  omega

lemma shown_upperDigit (bytes : Bytes) :
    List.Forall₂ ShowsDigit ((bytes.flatMap nibbles).map upperDigit) (bytes.flatMap nibbles) := by
  rw [List.forall₂_map_left_iff, List.forall₂_same]
  intro d hd
  exact ⟨lt_of_mem_nibbles hd, .inr rfl⟩

lemma Endpoint.shownBy_hostText (e : Endpoint) : e.ShownBy e.hostText :=
  ⟨_, _, rfl, shown_upperDigit _, shown_upperDigit _⟩

lemma Endpoint.isWord_hostText (e : Endpoint) : IsWord e.hostText := by
  refine ⟨by simp [Endpoint.hostText], ?_⟩
  have hdigit : ∀ d < 16, isBlank (upperDigit d) = false := by decide
  have hdigits : ∀ bytes : Bytes, ∀ c ∈ (bytes.flatMap nibbles).map upperDigit,
      isBlank c = false := by
    intro bytes c hc
    obtain ⟨d, hd, rfl⟩ := List.mem_map.mp hc
    exact hdigit d (lt_of_mem_nibbles hd)
  intro c hc
  rcases List.mem_append.mp hc with hc | hc
  · exact hdigits _ c hc
  · rcases List.mem_cons.mp hc with rfl | hc
    · decide
    · exact hdigits _ c hc

/-- Every connection is shown by a line, whatever words stand around it. -/
theorem HostConnection.shownBy_text (c : HostConnection) {label : List Char}
    {columns : List (List Char)} (hlabel : IsWord label) (hcolumns : ∀ w ∈ columns, IsWord w) :
    c.ShownBy (c.text label columns) := by
  have hwords : ∀ w ∈ label :: c.here.hostText :: c.remote.hostText :: columns, IsWord w := by
    simpa only [List.forall_mem_cons] using
      ⟨hlabel, c.here.isWord_hostText, c.remote.isWord_hostText, hcolumns⟩
  exact ⟨not_mem_intercalate hwords (by decide) (by decide), label, _, _, columns,
    laid_intercalate hwords, c.here.shownBy_hostText, c.remote.shownBy_hostText⟩

end Text

section Line

variable {line label here field address port : List Char} {columns : List (List Char)}

lemma forall_ne_colon (h : ':' ∉ field) : ∀ c ∈ field, decide (c ≠ ':') = true :=
  fun _ hc => decide_eq_true fun he => h (he ▸ hc)

lemma splitColon_append (h : ':' ∉ address) :
    splitColon (address ++ ':' :: port) = some (address, port) := by
  rw [splitColon, List.dropWhile_append_of_pos (forall_ne_colon h),
    List.takeWhile_append_of_pos (forall_ne_colon h)]
  simp

lemma splitColon_of_not_mem (h : ':' ∉ field) : splitColon field = none := by
  rw [← List.append_nil field, splitColon, List.dropWhile_append_of_pos (forall_ne_colon h)]
  rfl

/-- Of a line only the third field matters. -/
lemma remoteOfLine?_of_laid (hline : Laid (label :: here :: field :: columns) line) :
    remoteOfLine? line = (splitColon field).bind fun parts =>
      (readHexBelow 4294967296 parts.1).bind fun address =>
        (readHexBelow 65536 parts.2).bind fun port => some (address, UInt16.ofNat port) := by
  rw [remoteOfLine?, hline.fields_eq]
  rfl

lemma remoteOfLine?_of_colon
    (hline : Laid (label :: here :: (address ++ ':' :: port) :: columns) line)
    (hfirst : ':' ∉ address) :
    remoteOfLine? line = (readHexBelow 4294967296 address).bind fun address =>
      (readHexBelow 65536 port).bind fun port => some (address, UInt16.ofNat port) := by
  rw [remoteOfLine?_of_laid hline, splitColon_append hfirst, Option.bind_some]

lemma Unreadable.remoteOfLine? (h : Unreadable line) : remoteOfLine? line = none := by
  cases h with
  | @short words hline hwords =>
    have hthird : words[2]? = none := List.getElem?_eq_none (by omega)
    rw [GuestNat.remoteOfLine?, hline.fields_eq, hthird]
    rfl
  | noColon hline hcolon =>
    rw [remoteOfLine?_of_laid hline, splitColon_of_not_mem hcolon, Option.bind_none]
  | @noNumber label here address port columns hline hfirst hnumber =>
    rw [remoteOfLine?_of_colon hline hfirst]
    rcases hnumber with haddress | hport
    · rw [readHexBelow_eq_none_iff.mpr (.inl haddress), Option.bind_none]
    · have hnone : readHexBelow 65536 port = none := readHexBelow_eq_none_iff.mpr (.inl hport)
      simp only [hnone, Option.bind_none, Option.bind_fun_none]
  | @tooLarge label here address port columns n hline hfirst hlarge =>
    rw [remoteOfLine?_of_colon hline hfirst]
    rcases hlarge with haddress | hport
    · have hnone : readHexBelow 4294967296 address = none :=
        readHexBelow_eq_none_iff.mpr (.inr ⟨n, haddress⟩)
      rw [hnone, Option.bind_none]
    · have hnone : readHexBelow 65536 port = none :=
        readHexBelow_eq_none_iff.mpr (.inr ⟨n, hport⟩)
      simp only [hnone, Option.bind_none, Option.bind_fun_none]

lemma unreadable_of_remoteOfLine? (h : remoteOfLine? line = none) : Unreadable line := by
  have hline : Laid (fields line) line := fields_eq_iff.mp rfl
  generalize fields line = words at hline
  match words, hline with
  | [], hline | [_], hline | [_, _], hline => exact .short hline (by simp)
  | label :: here :: field :: columns, hline =>
    by_cases hcolon : ':' ∈ field
    · obtain ⟨address, port, rfl, hfirst⟩ := List.eq_append_cons_of_mem hcolon
      rw [remoteOfLine?_of_colon hline hfirst] at h
      cases haddress : readHexBelow 4294967296 address with
      | none =>
        rcases readHexBelow_eq_none_iff.mp haddress with hnumber | ⟨n, hn⟩
        · exact .noNumber hline hfirst (.inl hnumber)
        · exact .tooLarge hline hfirst (.inl hn)
      | some n =>
        cases hport : readHexBelow 65536 port with
        | none =>
          rcases readHexBelow_eq_none_iff.mp hport with hnumber | ⟨n, hn⟩
          · exact .noNumber hline hfirst (.inr hnumber)
          · exact .tooLarge hline hfirst (.inr hn)
        | some p =>
          rw [haddress, hport] at h
          cases h
    · exact .noColon hline hcolon

/-- The unreadable lines are those from which nothing is read. -/
theorem unreadable_iff : Unreadable line ↔ remoteOfLine? line = none :=
  ⟨Unreadable.remoteOfLine?, unreadable_of_remoteOfLine?⟩

end Line

section Connections

variable {ip : Ipv4} {port : UInt16} {c : HostConnection} {cs : List Char}

/-- The digits of an address, last octet first, are those of the word that the host shows. -/
lemma hexNumber_hostWord (h : List.Forall₂ ShowsDigit cs (ip.octets.reverse.flatMap nibbles)) :
    HexNumber cs ip.hostWord := by
  refine ⟨cs, _, .inl rfl, ?_, h, ?_⟩
  · rintro rfl
    cases h
  · simp only [Ipv4.hostWord, Ipv4.octets, List.reverse_cons, List.reverse_nil, List.nil_append,
      List.cons_append, List.flatMap_cons, nibbles, List.flatMap_nil, List.append_nil,
      Nat.ofDigits_cons, Nat.ofDigits_nil]
    omega

lemma hexNumber_port (h : List.Forall₂ ShowsDigit cs ((be16 port).flatMap nibbles)) :
    HexNumber cs port.toNat := by
  refine ⟨cs, _, .inl rfl, ?_, h, ?_⟩
  · rintro rfl
    cases h
  · have hport := port.toNat_lt
    simp only [be16, List.flatMap_cons, nibbles, UInt8.toNat_ofNat', List.flatMap_nil,
      List.append_nil, List.cons_append, List.nil_append, List.reverse_cons, List.reverse_nil,
      Nat.ofDigits_cons, Nat.ofDigits_nil]
    omega

lemma hostWord_lt (ip : Ipv4) : ip.hostWord < 4294967296 := by
  have ha := ip.a.toNat_lt
  have hb := ip.b.toNat_lt
  have hc := ip.c.toNat_lt
  have hd := ip.d.toNat_lt
  unfold Ipv4.hostWord
  omega

lemma hostWord_inj {x y : Ipv4} : x.hostWord = y.hostWord ↔ x = y := by
  constructor
  · intro h
    obtain ⟨a, b, c, d⟩ := x
    obtain ⟨a', b', c', d'⟩ := y
    simp only [Ipv4.hostWord] at h
    have ha := a.toNat_lt
    have hb := b.toNat_lt
    have hc := c.toNat_lt
    have ha' := a'.toNat_lt
    have hb' := b'.toNat_lt
    have hc' := c'.toNat_lt
    simp only [Ipv4.mk.injEq, ← UInt8.toNat_inj]
    omega
  · exact congrArg Ipv4.hostWord

lemma HostConnection.ShownBy.remoteOfLine? {line : List Char} (h : c.ShownBy line) :
    remoteOfLine? line = some (c.remote.ip.hostWord, c.remote.port) := by
  obtain ⟨-, label, here, remote, columns, hline, -, address, port, rfl, haddress, hport⟩ := h
  have hfirst : ':' ∉ address := not_mem_of_digits haddress (by decide)
  have hword : readHexBelow 4294967296 address = some c.remote.ip.hostWord :=
    readHexBelow_eq_some_iff.mpr ⟨hexNumber_hostWord haddress, hostWord_lt _⟩
  have hnumber : readHexBelow 65536 port = some c.remote.port.toNat :=
    readHexBelow_eq_some_iff.mpr ⟨hexNumber_port hport, c.remote.port.toNat_lt⟩
  rw [remoteOfLine?_of_colon hline hfirst, hword, hnumber, Option.bind_some, Option.bind_some,
    UInt16.ofNat_toNat]

end Connections

section Ports

variable {p q : UInt16} {ps found : List UInt16}

lemma mem_insertPort : q ∈ insertPort p ps ↔ q = p ∨ q ∈ ps := by
  induction ps with
  | nil => rw [insertPort, List.mem_singleton, List.mem_nil_iff, or_false]
  | cons r rest ih =>
    rw [insertPort]
    split_ifs with hlt heq
    · rw [List.mem_cons]
    · rw [heq, List.mem_cons, or_self_left]
    · rw [List.mem_cons, ih, List.mem_cons, or_left_comm]

lemma pairwise_insertPort (h : ps.Pairwise (· < ·)) : (insertPort p ps).Pairwise (· < ·) := by
  induction ps with
  | nil => exact List.pairwise_singleton _ _
  | cons r rest ih =>
    obtain ⟨hr, hrest⟩ := List.pairwise_cons.mp h
    rw [insertPort]
    split_ifs with hlt heq
    · refine List.pairwise_cons.mpr ⟨?_, h⟩
      intro q hq
      rcases List.mem_cons.mp hq with rfl | hq
      · exact hlt
      · exact UInt16.lt_trans hlt (hr q hq)
    · exact h
    · refine List.pairwise_cons.mpr ⟨?_, ih hrest⟩
      intro q hq
      rcases mem_insertPort.mp hq with rfl | hq
      · exact UInt16.lt_of_le_of_ne (UInt16.not_lt.mp hlt) (Ne.symm heq)
      · exact hr q hq

lemma mem_foldl_insertPort : q ∈ ps.foldl (fun found p => insertPort p found) found ↔
    q ∈ ps ∨ q ∈ found := by
  induction ps generalizing found with
  | nil => simp
  | cons p rest ih =>
    rw [List.foldl_cons, ih, mem_insertPort, List.mem_cons, or_assoc, or_left_comm]

lemma mem_sortPorts : q ∈ sortPorts ps ↔ q ∈ ps := by
  rw [sortPorts, mem_foldl_insertPort, List.mem_nil_iff, or_false]

lemma pairwise_foldl_insertPort (h : found.Pairwise (· < ·)) :
    (ps.foldl (fun found p => insertPort p found) found).Pairwise (· < ·) := by
  induction ps generalizing found with
  | nil => exact h
  | cons p rest ih => exact ih (pairwise_insertPort h)

lemma pairwise_sortPorts : (sortPorts ps).Pairwise (· < ·) := pairwise_foldl_insertPort .nil

end Ports

section Table

variable {text header : List Char} {ls : List (List Char)} {remote : Ipv4} {p : UInt16}

/-- A port is found if some line behind the first shows it with the address. -/
lemma mem_remotePorts : p ∈ remotePorts text remote ↔
    ∃ line ∈ (lines text).tail, remoteOfLine? line = some (remote.hostWord, p) := by
  rw [remotePorts, mem_sortPorts, List.mem_filterMap]
  refine exists_congr fun line => and_congr_right fun _ => ?_
  cases hline : remoteOfLine? line with
  | none => simp
  | some found =>
    obtain ⟨address, port⟩ := found
    by_cases haddress : address = remote.hostWord <;> simp [haddress]

lemma tail_lines (hheader : '\n' ∉ header) (hls : ∀ l ∈ ls, '\n' ∉ l) :
    (lines (['\n'].intercalate (header :: ls))).tail = ls := by
  rw [lines_intercalate (List.cons_ne_nil header ls) (List.forall_mem_cons.mpr ⟨hheader, hls⟩),
    List.tail_cons]

lemma not_mem_of_shownBy {connections : List HostConnection}
    (h : List.Forall₂ HostConnection.ShownBy connections ls) : ∀ l ∈ ls, '\n' ∉ l := by
  induction h with
  | nil => exact List.forall_mem_nil _
  | cons hc hrest ih => exact List.forall_mem_cons.mpr ⟨hc.1, ih⟩

lemma exists_line_iff {connections : List HostConnection}
    (h : List.Forall₂ HostConnection.ShownBy connections ls) :
    (∃ line ∈ ls, remoteOfLine? line = some (remote.hostWord, p)) ↔
      ∃ c ∈ connections, c.remote = ⟨remote, p⟩ := by
  induction h with
  | nil => simp
  | @cons c line connections ls hc hrest ih =>
    have hsame : remoteOfLine? line = some (remote.hostWord, p) ↔ c.remote = ⟨remote, p⟩ := by
      rw [hc.remoteOfLine?, Option.some.injEq, Prod.mk.injEq, hostWord_inj]
      obtain ⟨here, ⟨ip, port⟩⟩ := c
      exact (Endpoint.mk.injEq ..).symm.to_iff
    rw [List.exists_mem_cons_iff, List.exists_mem_cons_iff, ih, hsame]

/-- Of a table that shows connections below its header, line by line and with or without a line
feed at its end, the ports are found of the connections from an address, each once, and no
others. An unreadable line that stands anywhere below the header of a table changes nothing. -/
theorem remotePorts_of_listing (header : List Char) (hheader : '\n' ∉ header) (remote : Ipv4) :
    (∀ connections rows last, List.Forall₂ HostConnection.ShownBy connections rows →
      last = [] ∨ last = [[]] →
      let ports := remotePorts (['\n'].intercalate (header :: (rows ++ last))) remote
      ports.Pairwise (· < ·) ∧
        ∀ p, p ∈ ports ↔ ∃ c ∈ connections, c.remote = ⟨remote, p⟩) ∧
    ∀ before line behind, (∀ l ∈ before ++ line :: behind, '\n' ∉ l) → Unreadable line →
      remotePorts (['\n'].intercalate (header :: (before ++ line :: behind))) remote =
        remotePorts (['\n'].intercalate (header :: (before ++ behind))) remote := by
  constructor
  · intro connections rows last hrows hlast ports
    refine ⟨pairwise_sortPorts, fun p => ?_⟩
    -- A line feed at the end of the table begins a line without fields.
    have hempty : ∀ l ∈ last, l = [] := by
      rcases hlast with rfl | rfl <;> simp
    have hnewline : ∀ l ∈ rows ++ last, '\n' ∉ l := by
      intro l hl
      rcases List.mem_append.mp hl with hl | hl
      · exact not_mem_of_shownBy hrows l hl
      · rw [hempty l hl]
        exact List.not_mem_nil
    rw [mem_remotePorts, tail_lines hheader hnewline, ← exists_line_iff hrows]
    constructor
    · rintro ⟨line, hline, hread⟩
      rcases List.mem_append.mp hline with hline | hline
      · exact ⟨line, hline, hread⟩
      · rw [hempty line hline] at hread
        cases hread
    · rintro ⟨line, hline, hread⟩
      exact ⟨line, List.mem_append_left _ hline, hread⟩
  · intro before line behind hnewline hline
    have hothers : ∀ l ∈ before ++ behind, '\n' ∉ l := by
      intro l hl
      refine hnewline l ?_
      rw [List.mem_append] at hl
      exact List.mem_append.mpr (hl.imp_right (List.mem_cons_of_mem line))
    simp only [remotePorts, tail_lines hheader hnewline, tail_lines hheader hothers,
      List.filterMap_append, List.filterMap_cons, hline.remoteOfLine?]

/-- Two connections from the address and one from another; of the line behind them the port has 17
bits. -/
theorem remotePorts_of_listing_gateway :
    let gateway : Ipv4 := ⟨10, 0, 0, 2⟩
    let other : Ipv4 := ⟨127, 0, 0, 1⟩
    let connections : List HostConnection := [⟨⟨other, 7070⟩, ⟨gateway, 53001⟩⟩,
      ⟨⟨other, 7070⟩, ⟨gateway, 53002⟩⟩, ⟨⟨other, 22⟩, ⟨other, 54321⟩⟩]
    let header := "  sl  local_address rem_address   st".toList
    let rows := connections.map (·.text ['0', ':'] [['0', '1']])
    let long := "   1: 0100007F:1B9E +200000A:1CF0B 01".toList
    let ports := remotePorts (['\n'].intercalate (header :: (rows ++ [[]]))) gateway
    rows.head? = some "0: 0100007F:1B9E 0200000A:CF09 01".toList ∧
      (∀ p, p ∈ ports ↔ p = 53001 ∨ p = 53002) ∧ Unreadable long ∧
      remotePorts (['\n'].intercalate (header :: (rows ++ long :: [[]]))) gateway = ports := by
  intro gateway other connections header rows long ports
  have hrows : List.Forall₂ HostConnection.ShownBy connections rows := by
    rw [List.forall₂_map_right_iff, List.forall₂_same]
    intro c hc
    have hlabel : IsWord ['0', ':'] := ⟨List.cons_ne_nil _ _, by simp [isBlank]⟩
    have hcolumn : IsWord ['0', '1'] := ⟨List.cons_ne_nil _ _, by simp [isBlank]⟩
    exact c.shownBy_text hlabel (List.forall_mem_singleton.mpr hcolumn)
  have hlong : Unreadable long := unreadable_iff.mpr (by decide)
  have hnewline : ∀ l ∈ rows ++ long :: [[]], '\n' ∉ l := by decide
  obtain ⟨hlisted, hskipped⟩ := remotePorts_of_listing header (by decide) gateway
  refine ⟨by decide, fun p => ?_, hlong, hskipped rows long [[]] hnewline hlong⟩
  rw [(hlisted connections rows [[]] hrows (.inr rfl)).2 p]
  simp [connections, gateway, other, eq_comm]

end Table

end GuestNat
