import GuestNat.Proofs.Socks.Grammar
import GuestNat.Proofs.Socks.Server
import GuestNat.Proofs.Socks.Transcript

/-!
# What the client may say

The client greets the server before it has heard anything. It sends its credentials only if the
server has selected the password, and asks for the connection only after the server has selected
no authentication, or has taken the password (`permitted`). So it does in every run, whatever the
server sends, wherever its stream breaks off, and however little of what is said is taken
(`within_negotiate`). What it has said when a negotiation succeeds is understood by the server
(`understood_of_agrees`).
-/
namespace GuestNat.Socks

/-- What a client may say once the server has selected the password, after its answer to it. -/
def permittedByPassword (credentials : Option Credentials) (target : SocketAddress)
    (answer : Bytes) : Bytes :=
  match credentials with
  | none => []
  | some c => c.request ++
    match answer with
    | _ :: 0 :: _ => connectRequest target
    | _ => []

/-- What a client may say after what it has heard. -/
def permitted (credentials : Option Credentials) (target : SocketAddress) (heard : Bytes) :
    Bytes :=
  greeting credentials ++
    match heard with
    | 5 :: 0 :: _ => connectRequest target
    | 5 :: 2 :: answer => permittedByPassword credentials target answer
    | _ => []

/-- The request to authenticate, if the server asks for it and there are credentials. -/
def authentication (credentials : Option Credentials) (octets : Bytes) : Bytes :=
  match credentials with
  | some c => if [5, 2] <+: octets then c.request else []
  | none => []

/-- The server has let the client go on to its request to connect. -/
def LetsConnect (heard : Bytes) : Prop :=
  [5, 0] <+: heard ∨ ∃ version, [5, 2, version, 0] <+: heard

section

variable {credentials : Option Credentials} {target : SocketAddress}

lemma within_readBound {kind : UInt8} (allowed : Bytes → Bytes) :
    (readBound kind).Within allowed := by
  unfold readBound
  split_ifs
  · exact .skip fun _ => Dialogue.within_done
  · exact .skip fun _ => Dialogue.within_done
  · exact .read fun _ => .skip fun _ => Dialogue.within_done
  · exact Dialogue.within_fail _

lemma within_requestConnect : (requestConnect target).Within fun _ => connectRequest target := by
  have h : (requestConnect target).Within fun _ => connectRequest target ++ [] := by
    refine .write (.read fun version => .read fun code => .read fun _ => .read fun kind => ?_) _
    split_ifs
    · exact Dialogue.within_fail _
    · exact Dialogue.within_fail _
    · exact within_readBound _
  simpa only [List.append_nil] using h

/-- The connection is asked for after the server has taken the password. -/
lemma within_authenticate : (authenticate credentials (requestConnect target)).Within
    (permittedByPassword credentials target) := by
  cases credentials with
  | none => exact Dialogue.within_fail _
  | some c =>
    refine .write (.read fun version => .read fun status => ?_) c.request
    split_ifs with hstatus
    · exact Dialogue.within_fail _
    · obtain rfl := not_not.mp hstatus
      exact within_requestConnect

lemma within_negotiate : (negotiate credentials target).Within (permitted credentials target) := by
  refine .write (.read fun version => .read fun method => ?_) (greeting credentials)
  split_ifs with hversion
  · exact Dialogue.within_fail _
  obtain rfl := not_not.mp hversion
  unfold Method.ofByte
  split_ifs with hnone hpassword
  · subst hnone
    exact within_requestConnect
  · subst hpassword
    exact within_authenticate
  · exact Dialogue.within_fail _

/-- What has been said is a first part of the greeting, the credentials if they were asked for,
and the request to connect. -/
lemma permitted_of_heard {heard octets : Bytes} (h : heard <+: octets) :
    permitted credentials target heard <+:
      greeting credentials ++ authentication credentials octets ++ connectRequest target := by
  unfold permitted
  rw [List.append_assoc, List.prefix_append_right_inj]
  split
  · rename_i rest
    have hfree : ¬[5, 2] <+: octets := by
      intro hselected
      have hboth := List.prefix_of_prefix_length_le hselected h (by simp)
      simp at hboth
    have hnone : authentication credentials octets = [] := by
      unfold authentication
      split
      · rw [if_neg hfree]
      · rfl
    rw [hnone]
    exact List.prefix_rfl
  · rename_i answer
    have hselected : [5, 2] <+: octets := (List.prefix_append [5, 2] answer).trans h
    cases credentials with
    | none => exact List.nil_prefix
    | some c =>
      dsimp only [authentication, permittedByPassword]
      rw [if_pos hselected, List.prefix_append_right_inj]
      split
      · exact List.prefix_rfl
      · exact List.nil_prefix
  · exact List.nil_prefix

/-- More than the greeting and the credentials is said only after the server has let the client
connect. -/
lemma letsConnect_of_lt {heard octets said : Bytes} (h : heard <+: octets)
    (hsaid : said <+: permitted credentials target heard)
    (hlt : (greeting credentials ++ authentication credentials octets).length < said.length) :
    LetsConnect heard := by
  have hle := hsaid.length_le
  unfold permitted at hle
  rw [List.length_append] at hle
  rw [List.length_append] at hlt
  split at hle
  · exact .inl (List.prefix_append [5, 0] _)
  · rename_i answer
    have hselected : [5, 2] <+: octets := (List.prefix_append [5, 2] answer).trans h
    cases credentials with
    | none =>
      dsimp only [permittedByPassword] at hle
      rw [List.length_nil] at hle
      omega
    | some c =>
      simp only [authentication, if_pos hselected] at hlt
      simp only [permittedByPassword, List.length_append] at hle
      split at hle
      · rename_i version rest
        exact .inr ⟨version, List.prefix_append [5, 2, version, 0] rest⟩
      · rw [List.length_nil] at hle
        omega
  · rw [List.length_nil] at hle
    omega

lemma understood_of_agrees {heard said : Bytes} (h : Agrees credentials target heard said) :
    ∃ method, [5, method.toByte] <+: heard ∧ understand method said = some
      { methods := offered credentials
        login := if method = .password then credentials.map Credentials.login else none
        destination := destinationOf target
        port := portOf target } := by
  cases h with
  | freely hgrants =>
    exact ⟨.none, List.prefix_append .., understand_freely credentials target⟩
  | byPassword hc version hgrants =>
    subst hc
    refine ⟨.password, ?_, understand_byPassword _ target⟩
    rw [List.append_assoc]
    exact List.prefix_append ..

end

/-- Whatever the server sends and however the stream breaks off in either direction, what a
negotiation writes is what it says in its turns, and that is a first part of the greeting, the
request to authenticate if the server's first octets ask for it and there are credentials, and the
request to connect. Nothing of the request to connect is said before the server has been heard to
select no authentication, or to select the password and take it. If the negotiation succeeds, a
server that knows which method it selected reads all that was said, and learns the methods offered,
the username and the password if they were sent, and the destination and the port. -/
theorem says_only_what_it_may (credentials : Option Credentials) (target : SocketAddress)
    (t : Transport) :
    let client := negotiate credentials target
    let turns := client.transcript t
    let opening := greeting credentials ++ authentication credentials t.source.octets
    (client.run t).1.sink.written = t.sink.written ++ saidIn turns ∧
    t.source.octets = heardIn turns ++ (client.run t).1.source.octets ∧
    saidIn turns <+: opening ++ connectRequest target ∧
    (∀ past, past <+: turns → opening.length < (saidIn past).length →
      LetsConnect (heardIn past)) ∧
    ((client.run t).2 = .ok () → ∃ method, [5, method.toByte] <+: heardIn turns ∧
      understand method (saidIn turns) = some
        { methods := offered credentials
          login := if method = .password then credentials.map Credentials.login else none
          destination := destinationOf target
          port := portOf target }) := by
  intro client turns opening
  have hoctets := client.octets_run_transcript t
  have hheard : ∀ past, past <+: turns → heardIn past <+: t.source.octets := fun past hpast =>
    (heardIn_mono hpast).trans (hoctets ▸ List.prefix_append ..)
  refine ⟨client.written_run t, hoctets, ?_, fun past hpast hlt => ?_, fun hok => ?_⟩
  · exact (within_negotiate t turns List.prefix_rfl).trans
      (permitted_of_heard (hheard turns List.prefix_rfl))
  · exact letsConnect_of_lt (hheard past hpast) (within_negotiate t past hpast) hlt
  · exact understood_of_agrees (succeeds_negotiate_iff.mp (Dialogue.succeeds_transcript hok))

/-- The server asks for the password and takes it. It understands all that was said; and if only
twelve octets are taken, the last three of them are of the request to connect, which is begun after
the password was taken. -/
theorem says_only_what_it_may_byPassword :
    let credentials : Option Credentials := some ⟨[117], [112], by decide, by decide, by decide⟩
    let target : SocketAddress := .v4 ⟨⟨127, 0, 0, 1⟩, 8080⟩
    let source : Source := { chunks := [[5], [2, 1], [], [0, 5, 0, 0, 1, 127, 0, 0, 1, 31, 144]] }
    let client := negotiate credentials target
    let turns := client.transcript { source }
    let cut := client.transcript { source, sink := { limit := some (12, Sink.writeZero) } }
    (client.run { source }).2 = .ok () ∧
      understand .password (saidIn turns) =
        some ⟨[0, 2], some ([117], [112]), .address (.v4 ⟨127, 0, 0, 1⟩), 8080⟩ ∧
      saidIn cut = [5, 2, 0, 2, 1, 1, 117, 1, 112, 5, 1, 0] ∧ LetsConnect (heardIn cut) := by
  intro credentials target source client turns cut
  have hok : (client.run { source }).2 = .ok () := rfl
  have hcut : saidIn cut = [5, 2, 0, 2, 1, 1, 117, 1, 112, 5, 1, 0] := by decide
  obtain ⟨-, -, -, -, hunderstood⟩ := says_only_what_it_may credentials target { source }
  obtain ⟨-, -, -, hconnect, -⟩ := says_only_what_it_may credentials target
    { source, sink := { limit := some (12, Sink.writeZero) } }
  obtain ⟨method, hselected, hlearnt⟩ := hunderstood hok
  obtain rfl : method = .password := by
    cases method with
    | password => rfl
    | none => exact absurd hselected (by decide)
    | unacceptable => exact absurd hselected (by decide)
  exact ⟨hok, hlearnt, hcut, hconnect cut List.prefix_rfl (by decide)⟩

end GuestNat.Socks
