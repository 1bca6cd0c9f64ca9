import GuestNat.Proofs.Socks.Conversation
import GuestNat.Socks.Negotiation

/-!
# What a negotiation accepts

The server selects a method, takes the credentials if it selected the password, and grants the
connection with a bound address of one of three forms. A negotiation succeeds exactly if what the
server sends begins that way, and reads no octet more, so that the first octet of the tunnel is
the next on the stream (`negotiation_accepts_iff`).
-/
namespace GuestNat.Socks

/-- The type, the address and the port that a reply ends with. -/
inductive IsBound : Bytes → Prop
  | ipv4 {rest : Bytes} (h : rest.length = 6) : IsBound (1 :: rest)
  | ipv6 {rest : Bytes} (h : rest.length = 18) : IsBound (4 :: rest)
  | name {n : UInt8} {rest : Bytes} (h : rest.length = n.toNat + 2) : IsBound (3 :: n :: rest)

/-- A reply that grants the connection. Its third octet is reserved. -/
inductive Grants : Bytes → Prop
  | mk (reserved : UInt8) {bound : Bytes} (h : IsBound bound) : Grants ([5, 0, reserved] ++ bound)

/-- What is heard and said in a negotiation that succeeds. -/
inductive Agrees (credentials : Option Credentials) (target : SocketAddress) :
    (heard said : Bytes) → Prop
  /-- The server selects no authentication. -/
  | freely {reply : Bytes} (h : Grants reply) :
      Agrees credentials target ([5, 0] ++ reply)
        (greeting credentials ++ connectRequest target)
  /-- The server selects the password and takes it. The version of its answer does not matter. -/
  | byPassword {c : Credentials} (hc : credentials = some c) (version : UInt8) {reply : Bytes}
      (h : Grants reply) :
      Agrees credentials target ([5, 2] ++ [version, 0] ++ reply)
        (greeting credentials ++ c.request ++ connectRequest target)

section

variable {credentials : Option Credentials} {target : SocketAddress} {kind : UInt8}
variable {heard said : Bytes} {next : Dialogue}

lemma isBound_cons_iff {rest : Bytes} : IsBound (kind :: rest) ↔
    kind = 1 ∧ rest.length = 6 ∨ kind = 4 ∧ rest.length = 18 ∨
      kind = 3 ∧ ∃ n later, rest = n :: later ∧ later.length = n.toNat + 2 := by
  constructor
  · rintro (h | h | h)
    · exact .inl ⟨rfl, h⟩
    · exact .inr (.inl ⟨rfl, h⟩)
    · exact .inr (.inr ⟨rfl, _, _, rfl, h⟩)
  · rintro (⟨rfl, h⟩ | ⟨rfl, h⟩ | ⟨rfl, n, later, rfl, h⟩)
    · exact .ipv4 h
    · exact .ipv6 h
    · exact .name h

lemma grants_iff {reply : Bytes} : Grants reply ↔
    ∃ reserved kind rest, reply = 5 :: 0 :: reserved :: kind :: rest ∧ IsBound (kind :: rest) := by
  constructor
  · rintro ⟨reserved, h⟩
    cases h with
    | ipv4 h => exact ⟨reserved, _, _, rfl, .ipv4 h⟩
    | ipv6 h => exact ⟨reserved, _, _, rfl, .ipv6 h⟩
    | name h => exact ⟨reserved, _, _, rfl, .name h⟩
  · rintro ⟨reserved, kind, rest, rfl, h⟩
    exact .mk reserved h

lemma reply_eq_succeeded_iff (b : UInt8) : Reply.ofByte b = .succeeded ↔ b = 0 := by
  constructor
  · unfold Reply.ofByte
    split
    · exact fun _ => UInt8.toNat_inj.mp ‹_›
    all_goals nofun
  · rintro rfl
    rfl

lemma succeeds_readBound_iff :
    (readBound kind).Succeeds heard said ↔ IsBound (kind :: heard) ∧ said = [] := by
  rw [isBound_cons_iff]
  unfold readBound
  split_ifs with h1 h4 h3
  · simp [h1]
  · simp [h4]
  · simp [h3, ← and_assoc, exists_and_right]
  · simp [h1, h4, h3, refuse]

lemma succeeds_requestConnect_iff : (requestConnect target).Succeeds heard said ↔
    Grants heard ∧ said = connectRequest target := by
  simp only [requestConnect, Dialogue.succeeds_write_iff, Dialogue.succeeds_read_iff, grants_iff]
  constructor
  · rintro ⟨later, rfl, version, -, rfl, code, -, rfl, reserved, -, rfl, kind, rest, rfl, h⟩
    split_ifs at h with hversion hcode
    · cases h
    · cases h
    obtain ⟨hbound, rfl⟩ := succeeds_readBound_iff.mp h
    obtain rfl := not_not.mp hversion
    obtain rfl := (reply_eq_succeeded_iff code).mp (not_not.mp hcode)
    exact ⟨⟨reserved, kind, rest, rfl, hbound⟩, List.append_nil _⟩
  · rintro ⟨⟨reserved, kind, rest, rfl, hbound⟩, rfl⟩
    refine ⟨[], (List.append_nil _).symm, 5, _, rfl, 0, _, rfl, reserved, _, rfl, kind, rest, rfl, ?_⟩
    exact succeeds_readBound_iff.mpr ⟨hbound, rfl⟩

lemma succeeds_authenticate_iff : (authenticate credentials next).Succeeds heard said ↔
    ∃ c version heard' said', credentials = some c ∧ heard = version :: 0 :: heard' ∧
      said = c.request ++ said' ∧ next.Succeeds heard' said' := by
  cases credentials with
  | none => simp [authenticate, refuse]
  | some c =>
    simp only [authenticate, Dialogue.succeeds_write_iff, Dialogue.succeeds_read_iff]
    constructor
    · rintro ⟨said', rfl, version, -, rfl, status, heard', rfl, h⟩
      split_ifs at h with hstatus
      · cases h
      obtain rfl := not_not.mp hstatus
      exact ⟨c, version, heard', said', rfl, rfl, rfl, h⟩
    · rintro ⟨c', version, heard', said', hc, rfl, rfl, h⟩
      obtain rfl := Option.some.inj hc
      exact ⟨said', rfl, version, _, rfl, 0, heard', rfl, h⟩

/-- A negotiation succeeds exactly by what the client and the server agree on. -/
theorem succeeds_negotiate_iff : (negotiate credentials target).Succeeds heard said ↔
    Agrees credentials target heard said := by
  simp only [negotiate, Dialogue.succeeds_write_iff, Dialogue.succeeds_read_iff]
  constructor
  · rintro ⟨later, rfl, version, -, rfl, method, rest, rfl, h⟩
    split_ifs at h with hversion
    · cases h
    obtain rfl := not_not.mp hversion
    unfold Method.ofByte at h
    split_ifs at h with hnone hpassword
    · obtain ⟨hgrants, rfl⟩ := succeeds_requestConnect_iff.mp h
      exact hnone ▸ .freely hgrants
    · obtain ⟨c, answer, reply, said', hc, rfl, rfl, hnext⟩ := succeeds_authenticate_iff.mp h
      obtain ⟨hgrants, rfl⟩ := succeeds_requestConnect_iff.mp hnext
      rw [hpassword, ← List.append_assoc]
      exact .byPassword hc answer hgrants
    · cases h
  · rintro (hgrants | ⟨hc, answer, hgrants⟩)
    · exact ⟨_, rfl, 5, _, rfl, 0, _, rfl, succeeds_requestConnect_iff.mpr ⟨hgrants, rfl⟩⟩
    · refine ⟨_, List.append_assoc .., 5, _, rfl, 2, _, rfl, ?_⟩
      exact succeeds_authenticate_iff.mpr ⟨_, answer, _, _, hc, rfl, rfl,
        succeeds_requestConnect_iff.mpr ⟨hgrants, rfl⟩⟩

end

/-- A negotiation succeeds exactly if what the server sends begins with a selection of no
authentication, or of the password and an answer that takes it if there are credentials, and goes
on with a reply that grants the connection, and the transport takes what the client says to it.
However the octets arrive, exactly what is behind the reply is left to be read. -/
theorem negotiation_accepts_iff (credentials : Option Credentials) (target : SocketAddress)
    (t : Transport) :
    let (t', result) := (negotiate credentials target).run t
    (result = .ok () ↔ ∃ heard said rest, Agrees credentials target heard said ∧
      t.source.octets = heard ++ rest ∧ t.sink.Takes said.length) ∧
    (result = .ok () → ∀ heard said rest, Agrees credentials target heard said →
      t.source.octets = heard ++ rest → t'.source.octets = rest) := by
  simp only [← succeeds_negotiate_iff]
  exact ⟨Dialogue.run_eq_ok_iff, fun h _ _ _ => Dialogue.octets_run h⟩

/-- The server takes the password and answers with a name of two octets, in pieces that are cut
anywhere, and the last piece holds the first octets of the tunnel. -/
theorem negotiation_accepts_iff_named :
    let credentials : Option Credentials :=
      some ⟨[117, 115, 101, 114], [112, 97, 115, 115], by decide, by decide, by decide⟩
    let target : SocketAddress := .v4 ⟨⟨93, 184, 216, 34⟩, 80⟩
    let t : Transport :=
      { source := { chunks := [[5], [2, 1], [], [0, 5, 0, 0, 3, 2, 104], [105, 31, 144, 72, 105]] } }
    let (t', result) := (negotiate credentials target).run t
    result = .ok () ∧ t'.source.octets = [72, 105] := by
  intro credentials target t
  have hgrants : Grants [5, 0, 0, 3, 2, 104, 105, 31, 144] := .mk 0 (.name rfl)
  have hagrees : Agrees credentials target [5, 2, 1, 0, 5, 0, 0, 3, 2, 104, 105, 31, 144] _ :=
    .byPassword rfl 1 hgrants
  have hoctets : t.source.octets =
      [5, 2, 1, 0, 5, 0, 0, 3, 2, 104, 105, 31, 144] ++ [72, 105] := rfl
  obtain ⟨hiff, hrest⟩ := negotiation_accepts_iff credentials target t
  have hok := hiff.mpr ⟨_, _, _, hagrees, hoctets, Sink.takes_of_limit_eq_none rfl _⟩
  exact ⟨hok, hrest hok _ _ _ hagrees hoctets⟩

end GuestNat.Socks
