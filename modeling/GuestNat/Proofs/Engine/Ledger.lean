import Mathlib.Data.UInt
import GuestNat.Proofs.Engine.Links

/-!
# The counters are a ledger

What the counters say can be told from elsewhere: from the frames and dials that have left the
engine, from the inputs that were read, and from the link table. A balance is the difference
between the two. No operation changes it, whatever is refused or comes too late, except that an
input that is read adds to what came in. So in every run the counters are exact, modulo 2⁶⁴
(`counters_exact`).
-/
namespace GuestNat

/-- The octets of a frame that the interface accepted. -/
def Effect.frame? : Effect → Option Bytes
  | .frame _ bytes => some bytes
  | _ => none

def Effect.isReset : Effect → Bool
  | .frame .reset _ => true
  | _ => false

/-- Whether a counter goes with an effect. -/
def Effect.isBooked : Effect → Bool
  | .frame _ _ | .dial _ _ => true
  | _ => false

namespace Traffic

/-- The count of packets, each with its octets. -/
def ofAll (packets : List Bytes) : Traffic :=
  ⟨.ofNat packets.length, .ofNat (packets.map List.length).sum⟩

@[simp] theorem ofAll_nil : ofAll [] = {} := rfl

@[simp] theorem add_zero (t : Traffic) : t.add {} = t := by simp [add]

@[simp] theorem zero_add (t : Traffic) : Traffic.add {} t = t := by simp [add]

lemma add_assoc (s t u : Traffic) : (s.add t).add u = s.add (t.add u) := by
  simp only [add, mk.injEq]
  exact ⟨UInt64.add_assoc .., UInt64.add_assoc ..⟩

lemma ofAll_append (xs ys : List Bytes) : ofAll (xs ++ ys) = (ofAll xs).add (ofAll ys) := by
  simp only [ofAll, add, List.length_append, List.map_append, List.sum_append, UInt64.ofNat_add]

lemma count_eq_add (t : Traffic) (bytes : Bytes) :
    t.count bytes.length = t.add (ofAll [bytes]) := by
  simp only [count, add, ofAll, List.map_cons, List.map_nil, List.sum_cons, List.sum_nil,
    Nat.add_zero]
  rfl

end Traffic

lemma ProtocolTraffic.total_count (t : ProtocolTraffic) (protocol : Protocol) (length : Nat) :
    (t.count protocol length).total = t.total.count length := by
  cases protocol <;> simp only [count, total, Traffic.add, Traffic.count, Traffic.mk.injEq] <;>
    grind

namespace LinkTable

variable {t : LinkTable}

lemma size_drop {l : Link} {id : LinkId} (hk : t.byTuple.get? l.key = some id) :
    (t.drop l).size + 1 = t.size := Table.size_erase hk

lemma size_create {key : LinkKey} (hk : t.byTuple.get? key = none) (port : UInt16) (now : Nat) :
    (t.create key port now).size = t.size + 1 := by
  rw [Table.get?_eq_none_iff] at hk
  exact (Table.size_insert ..).trans (if_neg hk)

/-- Closing all links returns as many as were live. -/
lemma Backed.length_clear (h : t.Backed) : t.clear.2.length = t.size := by
  have hknown : (t.live.filterMap t.link?).length = t.live.length := by
    rw [List.filterMap_length_eq_length]
    intro id hid
    obtain ⟨k, hk⟩ := Table.mem_values_iff.mp hid
    exact h k id hk
  exact hknown.trans (Table.length_values _)

end LinkTable

/-- What came in, and by how much the other counters differ from what they count. -/
structure Balance where
  inbound : Traffic := {}
  packets : UInt64 := 0
  octets : UInt64 := 0
  resets : UInt64 := 0
  dials : UInt64 := 0
  live : UInt64 := 0
  deriving DecidableEq, Repr

def Balance.receive (b : Balance) (inputs : List Bytes) : Balance :=
  { b with inbound := b.inbound.add (.ofAll inputs) }

@[simp] theorem Balance.receive_nil (b : Balance) : b.receive [] = b := by simp [receive]

lemma Balance.receive_append (b : Balance) (xs ys : List Bytes) :
    b.receive (xs ++ ys) = (b.receive xs).receive ys := by
  simp only [receive, Traffic.ofAll_append, Traffic.add_assoc]

/-- The octets that arrive with an event, if they are a frame. -/
def Event.read (verify : Bool) : Event → List Bytes
  | .input bytes => if (Frame.ofBytes? verify bytes).isSome then [bytes] else []
  | _ => []

def readInputs (verify : Bool) (events : List (Surroundings × Event)) : List Bytes :=
  events.flatMap fun (_, event) => event.read verify

namespace Engine

/-- The frames that the interface accepted, oldest first. -/
def written (e : Engine) : List Bytes := e.outbox.filterMap Effect.frame?

def resets (e : Engine) : Nat := e.outbox.countP Effect.isReset

/-- What came in, and the other counters without what they count. -/
def balance (e : Engine) : Balance where
  inbound := e.counters.inbound.total
  packets := e.counters.outbound.total.packets - .ofNat e.written.length
  octets := e.counters.outbound.total.octets - .ofNat (e.written.map List.length).sum
  resets := e.counters.resetsSent - .ofNat e.resets
  dials := e.counters.linksCreated - .ofNat e.dials
  live := e.counters.linksCreated - e.counters.linksClosed - .ofNat e.links.size

section Operations

variable (e : Engine) (w : Surroundings)

/-- Effects that no counter goes with may be appended. -/
lemma balance_append {effects : List Effect} (h : ∀ x ∈ effects, x.isBooked = false) :
    { e with outbox := e.outbox ++ effects }.balance = e.balance := by
  have hframe : effects.filterMap Effect.frame? = [] := by
    rw [List.filterMap_eq_nil_iff]
    intro x hx
    cases x <;> first | rfl | cases h _ hx
  have hnone : ∀ p : Effect → Bool, (∀ x, p x = true → x.isBooked = true) →
      effects.countP p = 0 := by
    intro p hp
    rw [List.countP_eq_zero]
    exact fun x hx hpx => Bool.false_ne_true ((h x hx).symm.trans (hp x hpx))
  have hreset := hnone Effect.isReset (by intro x hx; cases x <;> first | rfl | cases hx)
  have hdial := hnone Effect.isDial (by intro x hx; cases x <;> first | rfl | cases hx)
  simp only [balance, written, resets, dials, List.filterMap_append, List.countP_append, hframe,
    hreset, hdial, List.append_nil, Nat.add_zero]

lemma balance_emit {x : Effect} (hx : x.isBooked = false) : (e.emit x).balance = e.balance :=
  e.balance_append (List.forall_mem_singleton.mpr hx)

lemma balance_hangUp (ls : List Link) : (e.hangUp ls).balance = e.balance := by
  refine e.balance_append ?_
  rw [List.forall_mem_map]
  exact fun _ _ => rfl

lemma balance_noteRouting (answers : List RoutingAnswer) :
    (e.noteRouting answers).balance = e.balance := by
  refine e.balance_append ?_
  rw [List.forall_mem_map]
  exact fun _ _ => rfl

lemma balance_frame (cause : FrameCause) (protocol : Protocol) (bytes : Bytes) :
    ((e.emit (.frame cause bytes)).count (·.record .outbound protocol bytes.length)).balance =
      { e.balance with
        resets := e.balance.resets - .ofNat (Effect.frame cause bytes).isReset.toNat } := by
  have hwritten : (e.emit (.frame cause bytes)).written = e.written ++ [bytes] :=
    List.filterMap_append ..
  have hresets : (e.emit (.frame cause bytes)).resets =
      e.resets + (Effect.frame cause bytes).isReset.toNat := by
    simp only [resets, emit, List.countP_append, List.countP_singleton]
    cases cause <;> rfl
  have hdials : (e.emit (.frame cause bytes)).dials = e.dials := dials_emit ..
  have htotal := e.counters.outbound.total_count protocol bytes.length
  simp only [balance, Balance.mk.injEq]
  refine ⟨rfl, ?_, ?_, ?_, ?_, rfl⟩
  · change (e.counters.outbound.count protocol bytes.length).total.packets -
      .ofNat (e.emit (.frame cause bytes)).written.length = _
    rw [htotal, hwritten, List.length_append, UInt64.ofNat_add]
    exact add_sub_add_right_eq_sub ..
  · change (e.counters.outbound.count protocol bytes.length).total.octets -
      .ofNat ((e.emit (.frame cause bytes)).written.map List.length).sum = _
    rw [htotal, hwritten, List.map_append, List.sum_append, UInt64.ofNat_add]
    exact add_sub_add_right_eq_sub ..
  · change e.counters.resetsSent - .ofNat (e.emit (.frame cause bytes)).resets = _
    rw [hresets, UInt64.ofNat_add]
    exact sub_add_eq_sub_sub ..
  · change e.counters.linksCreated - .ofNat (e.emit (.frame cause bytes)).dials = _
    rw [hdials]

lemma balance_write {cause : FrameCause} (hcause : cause ≠ .reset) (f : Frame) :
    (e.write w cause f).balance = e.balance := by
  unfold write
  split
  · rw [balance_frame]
    cases cause with
    | reset => exact absurd rfl hcause
    | _ => simp [Effect.isReset]
  · rfl

lemma balance_sendReset (s : Segment) : (e.sendReset w s).balance = e.balance := by
  unfold sendReset write
  split
  · rfl
  · dsimp only
    split
    · have hframe := e.balance_frame .reset s.reset.toFrame.protocol s.reset.toFrame.toBytes
      generalize (e.emit _).count _ = d at hframe ⊢
      have hsent : (d.count .resetSent).balance =
          { d.balance with resets := d.balance.resets + 1 } := by
        simp only [balance, Balance.mk.injEq]
        refine ⟨rfl, rfl, rfl, ?_, rfl, rfl⟩
        exact (sub_add_eq_add_sub ..).symm
      rw [hsent, hframe]
      simp [Effect.isReset]
    · rfl

lemma balance_absorb (effects : List FlowEffect) : (e.absorb w effects).balance = e.balance := by
  exact absorb_induction (P := fun d => d.balance = e.balance) e effects rfl
    (fun d _ h => (d.balance_write w (by decide) _).trans h)
    fun d _ h => (d.balance_emit rfl).trans h

lemma balance_closed {links : LinkTable} {n : Nat} (hsize : links.size + n = e.links.size)
    (ls : List Link) :
    (({ e with links }.hangUp ls).count (·.linksWereClosed n)).balance = e.balance := by
  have hclosed : (({ e with links }.hangUp ls).count (·.linksWereClosed n)).balance =
      { ({ e with links }.hangUp ls).balance with
        live := e.counters.linksCreated - (e.counters.linksClosed + .ofNat n) -
          .ofNat links.size } := rfl
  rw [hclosed, balance_hangUp]
  simp only [balance, Balance.mk.injEq, true_and]
  refine ⟨rfl, rfl, rfl, rfl, ?_⟩
  rw [← hsize, UInt64.ofNat_add]
  grind

lemma balance_closeLink (id : LinkId) : (e.closeLink id).1.balance = e.balance := by
  rcases e.closeLink_cases id with hsame | ⟨l, -, hk, hclosed⟩
  · rw [hsame]
  · rw [hclosed]
    exact e.balance_closed (LinkTable.size_drop hk) [l]

lemma balance_dropFinished (key : LinkKey) : (e.dropFinished key).balance = e.balance := by
  exact dropFinished_induction (P := fun d => d.balance = e.balance) e key rfl
    fun l _ => e.balance_closeLink l.id

/-- A link that comes into the table is counted, and dialed for. -/
lemma balance_openLink {links : LinkTable} (hsize : links.size = e.links.size + 1) (l : Link)
    (s : Segment) : (({ e with links }.emit .portQuery).openLink l s).balance = e.balance := by
  have hasked : ({ e with links }.emit .portQuery).dials = e.dials := dials_emit ..
  have hdials := ({ e with links }.emit .portQuery).dials_openLink l s
  rw [hasked] at hdials
  have houtbox : (({ e with links }.emit .portQuery).openLink l s).outbox =
      e.outbox ++ [.portQuery, .dial l.id l.destination] := List.append_assoc ..
  have hwritten : (({ e with links }.emit .portQuery).openLink l s).written = e.written := by
    rw [written, houtbox, List.filterMap_append]
    exact List.append_nil _
  have hresets : (({ e with links }.emit .portQuery).openLink l s).resets = e.resets := by
    rw [resets, houtbox, List.countP_append]
    rfl
  have hlive : (({ e with links }.emit .portQuery).openLink l s).links.size =
      e.links.size + 1 := hsize
  simp only [balance, Balance.mk.injEq, hwritten, hresets, hdials, hlive]
  refine ⟨rfl, rfl, rfl, rfl, ?_, ?_⟩
  · change e.counters.linksCreated + 1 - _ = _
    rw [UInt64.ofNat_add]
    exact add_sub_add_right_eq_sub ..
  · change e.counters.linksCreated + 1 - e.counters.linksClosed - _ = _
    rw [UInt64.ofNat_add]
    grind

lemma balance_repeatSyn (l : Link) (s : Segment) :
    (e.repeatSyn w l s).balance = e.balance := by
  unfold repeatSyn
  dsimp only
  split
  · exact balance_write _ w (by decide) _
  · rfl

lemma balance_processSyn (s : Segment) : (e.processSyn w s).balance = e.balance := by
  have ho := e.requestOutcome_processSyn w s
  rw [← e.balance_dropFinished (s.source, s.destination)]
  generalize e.dropFinished (s.source, s.destination) = d, e.processSyn w s = e' at ho ⊢
  cases ho with
  | repeated => exact balance_repeatSyn ..
  | unknown => rfl
  | refused =>
    rw [balance_sendReset, balance_emit _ rfl]
    rfl
  | @opened port ports hfree =>
    exact d.balance_openLink (LinkTable.size_create (t := { d.links with ports }) hfree ..) _ _

lemma balance_processTcp (s : Segment) : (e.processTcp w s).balance = e.balance := by
  unfold processTcp processReply processForward
  split
  · split
    · split
      · exact e.balance_sendReset w s
      · exact balance_write _ w (by decide) _
    · rfl
  · split
    · exact e.balance_processSyn w s
    · split
      · exact e.balance_sendReset w s
      · dsimp only
        split
        · split <;> rfl
        · exact balance_write _ w (by decide) _

lemma Dispatches.balance {w : Surroundings} {e e' : Engine} (h : Dispatches w e e') :
    e'.balance = e.balance := by
  induction h with
  | sent => exact balance_absorb ..
  | forwarded e => exact e.balance_emit rfl
  | trans _ _ ih ih' => exact ih'.trans ih
  | _ => rfl

lemma balance_input (bytes : Bytes) : (e.input w bytes).balance =
    e.balance.receive ((Event.input bytes).read e.config.verify) := by
  unfold input
  cases hf : Frame.ofBytes? e.config.verify bytes with
  | none =>
    have hread : (Event.input bytes).read e.config.verify = [] := by simp [Event.read, hf]
    rw [hread, Balance.receive_nil]
    rfl
  | some f =>
    have hread : (Event.input bytes).read e.config.verify = [bytes] := by simp [Event.read, hf]
    have hcounted : (e.count (·.record .inbound f.protocol bytes.length)).balance =
        e.balance.receive [bytes] := by
      have htotal := e.counters.inbound.total_count f.protocol bytes.length
      rw [Traffic.count_eq_add] at htotal
      simp only [balance, Balance.receive, Balance.mk.injEq]
      exact ⟨htotal, rfl, rfl, rfl, rfl, rfl⟩
    rw [hread, ← hcounted]
    dsimp only
    generalize e.count _ = d
    obtain ⟨s, heq⟩ | h := d.processFrame_cases w f
    · rw [heq]
      exact d.balance_processTcp w s
    · exact h.balance

lemma balance_connected (id : LinkId) (socket : SocketId) :
    (e.connected w id socket).balance = e.balance := by
  unfold connected
  split
  · rfl
  · dsimp only
    split
    · exact balance_emit _ rfl
    · split
      · exact balance_write _ w (by decide) _
      · rfl

lemma balance_dialFailed (id : LinkId) : (e.dialFailed w id).balance = e.balance := by
  unfold dialFailed
  split
  · rfl
  · dsimp only
    split
    · rfl
    · split
      · rw [balance_sendReset, balance_closeLink]
        rfl
      · rw [balance_closeLink]
        rfl

lemma balance_sweepLink (now : Nat) (id : LinkId) :
    (e.sweepLink now id).1.balance = e.balance := by
  exact sweepLink_induction (P := fun d => d.balance = e.balance) e id rfl
    (fun l _ _ => balance_hangUp ..) fun d h => (d.balance_closeLink id).trans h

lemma balance_sweepLinks (now : Nat) (order : List LinkId) :
    (e.sweepLinks now order).1.balance = e.balance := by
  exact sweepLinks_induction (P := fun d => d.balance = e.balance) e order rfl
    fun d id h => (d.balance_sweepLink now id).trans h

lemma balance_sweep (now : Nat) : (e.sweep w now).1.balance = e.balance :=
  (balance_absorb ..).trans (e.balance_sweepLinks now e.links.live)

lemma balance_start : (e.start w).1.balance = e.balance := by
  unfold start
  split
  · rfl
  · dsimp only
    split
    · exact e.balance_noteRouting _
    · exact e.balance_noteRouting _

/-- A stop counts the links that it closes, for each of them is known. -/
lemma balance_stop (hbacked : e.links.Backed) : (e.stop w).1.balance = e.balance := by
  have hsize : e.links.clear.1.size + e.links.clear.2.length = e.links.size := by
    rw [hbacked.length_clear]
    exact Nat.zero_add _
  unfold stop
  split
  · rfl
  · dsimp only
    rw [balance_noteRouting, balance_absorb]
    exact e.balance_closed hsize e.links.clear.2

lemma balance_step (hbacked : e.links.Backed) (event : Event) :
    (e.step w event).balance = e.balance.receive (event.read e.config.verify) := by
  have hnil := (Balance.receive_nil e.balance).symm
  cases event with
  | input bytes => exact e.balance_input w bytes
  | connected id socket => exact (e.balance_connected w id socket).trans hnil
  | dialFailed id => exact (e.balance_dialFailed w id).trans hnil
  | flow event => exact (balance_absorb ..).trans hnil
  | carried id sent received => exact hnil
  | sweep => exact (e.balance_sweep w w.now).trans hnil
  | start => exact (e.balance_start w).trans hnil
  | stop => exact (e.balance_stop w hbacked).trans hnil

end Operations

/-- What the balance of a run comes to is what was read. -/
lemma balance_run {e : Engine} (hlabelled : e.links.Labelled) (hbacked : e.links.Backed)
    (events : List (Surroundings × Event)) :
    (e.run events).balance = e.balance.receive (readInputs e.config.verify events) := by
  induction events generalizing e with
  | nil => exact (Balance.receive_nil _).symm
  | cons x rest ih =>
    have hlabelled' := (e.relinks_step x.1 hlabelled x.2).labelled hlabelled
    obtain ⟨hconfig, requests, -, hlinks, -⟩ := e.relinks_step x.1 hlabelled x.2
    have hbacked' : (e.step x.1 x.2).links.Backed := hlinks ▸ hbacked.run requests
    have hrest := ih hlabelled' hbacked'
    rw [hconfig, e.balance_step x.1 hbacked, ← Balance.receive_append] at hrest
    exact hrest

/-- In every run the counters are exact, modulo 2⁶⁴: those of links by the links that are live
and the connections that were asked for, those of packets and octets by the inputs that were read
and the frames that were accepted, and that of resets by the engine's own among these. -/
theorem counters_exact {c : Config} {e₀ : Engine} (hbuild : build c true = .ok e₀)
    (events : List (Surroundings × Event)) :
    let e := e₀.run events
    e.counters.linksCreated - e.counters.linksClosed = .ofNat e.links.size ∧
    e.counters.linksCreated = .ofNat e.dials ∧
    e.counters.inbound.total = .ofAll (readInputs c.verify events) ∧
    e.counters.outbound.total = .ofAll e.written ∧
    e.counters.resetsSent = .ofNat e.resets := by
  intro e
  obtain ⟨-, rfl⟩ := build_eq_ok hbuild
  have hbalance := balance_run (sound_ofConfig c).links.labelled
    (fun _ _ hk => by cases hk) events
  have hstart : (ofConfig c).balance = {} := by
    change (ofConfig {}).balance = {}
    decide
  rw [hstart, Balance.receive, Traffic.zero_add] at hbalance
  simp only [balance, Balance.mk.injEq] at hbalance
  obtain ⟨hin, hpackets, hoctets, hresets, hdials, hlive⟩ := hbalance
  refine ⟨sub_eq_zero.mp hlive, sub_eq_zero.mp hdials, hin, ?_, sub_eq_zero.mp hresets⟩
  rw [Traffic.ofAll, ← sub_eq_zero.mp hpackets, ← sub_eq_zero.mp hoctets]

/-- A connection fails and is answered with a reset, and another opens while the interface
refuses its request. What arrives last is no frame. -/
theorem counters_exact_refused :
    let syn : Segment :=
      { source := ⟨⟨10, 0, 0, 5⟩, 51000⟩, destination := ⟨⟨93, 184, 216, 34⟩, 80⟩
        flags := { syn := true } }
    let events : List (Surroundings × Event) :=
      [({}, .input syn.toFrame.toBytes), ({}, .dialFailed 1), ({}, .input syn.toFrame.toBytes),
        ({ accepts := false }, .connected 2 7), ({}, .input [0x45])]
    let e := (ofConfig {}).run events
    build {} true = .ok (ofConfig {}) ∧ e.links.size = 1 ∧ e.dials = 2 ∧ e.resets = 1 ∧
      e.written.length = 1 ∧
      e.counters.linksCreated = 2 ∧ e.counters.linksClosed = 1 ∧ e.counters.resetsSent = 1 ∧
      e.counters.inbound.total = .ofAll [syn.toFrame.toBytes, syn.toFrame.toBytes] ∧
      e.counters.outbound.total = .ofAll e.written := by
  intro syn events e
  have hbuild : build {} true = .ok (ofConfig {}) := rfl
  obtain ⟨hlive, hdials, hin, hout, hresets⟩ := counters_exact hbuild events
  have hsize : e.links.size = 1 := by decide +kernel
  have hdialed : e.dials = 2 := by decide +kernel
  have hreset : e.resets = 1 := by decide +kernel
  have hread : readInputs ({} : Config).verify events =
      [syn.toFrame.toBytes, syn.toFrame.toBytes] := by decide +kernel
  refine ⟨hbuild, hsize, hdialed, hreset, by decide +kernel, ?_, ?_, ?_, ?_, hout⟩
  · rw [hdials, hdialed]
    rfl
  · rw [hdials, hdialed, hsize, sub_eq_iff_eq_add] at hlive
    exact (add_left_cancel (a := 1) hlive).symm
  · rw [hresets, hreset]
    rfl
  · rw [hin, hread]

end Engine

end GuestNat
