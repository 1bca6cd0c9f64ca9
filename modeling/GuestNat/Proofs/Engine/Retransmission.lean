import GuestNat.Proofs.Engine.Isolation
import GuestNat.Proofs.Engine.Misses
import GuestNat.Proofs.Engine.Openings
import GuestNat.Proofs.Engine.Sweeping
import GuestNat.Proofs.Engine.Waiting

/-!
# A request that is repeated

While the connection of a new link is being opened, the guest repeats its request, perhaps with
another number, and may send other segments early. None of it opens anything more or is written
(`Waits`, which every event preserves that leaves the link to wait), and the last request alone
decides what the completion of the connection writes (`repeated_request_collapses`).
-/
namespace GuestNat

/-- The source and the destination of a segment in a frame with a plain header. -/
def Segment.route? : Bytes → Option (Endpoint × Endpoint)
  | _ :: _ :: _ :: _ :: _ :: _ :: _ :: _ :: _ :: p :: _ :: _ ::
      s₃ :: s₂ :: s₁ :: s₀ :: d₃ :: d₂ :: d₁ :: d₀ :: sp₁ :: sp₀ :: dp₁ :: dp₀ :: _ =>
    if p = Protocol.tcp.number then
      some (⟨⟨s₃, s₂, s₁, s₀⟩, word16 sp₁ sp₀⟩, ⟨⟨d₃, d₂, d₁, d₀⟩, word16 dp₁ dp₀⟩)
    else none
  | _ => none

@[simp] theorem Segment.route?_toBytes (s : Segment) :
    route? s.toBytes = some (s.source, s.destination) := by
  obtain ⟨c₁, c₀, hframe⟩ := s.toFrame.toBytes_cons
  obtain ⟨d₁, d₀, hpayload⟩ := s.toFrame_payload_cons
  rw [toBytes, hframe, hpayload]
  simp only [route?, word16_be16]
  exact if_pos rfl

/-- A datagram is no segment. -/
@[simp] theorem Datagram.route?_toFrame (d : Datagram) :
    Segment.route? d.toFrame.toBytes = none := by
  obtain ⟨c₁, c₀, hframe⟩ := d.toFrame.toBytes_cons
  rw [hframe]
  unfold Segment.route?
  split
  · rename_i heq
    simp only [List.cons.injEq] at heq
    obtain ⟨-, -, -, -, -, -, -, -, -, hp, -⟩ := heq
    have hne : d.toFrame.protocol.number ≠ Protocol.tcp.number := (by decide : (17 : UInt8) ≠ 6)
    rw [← hp, if_neg hne]
  · rfl

/-- Whether an effect concerns a link: its connection is asked for, or a segment is written from
its stand-in, or to the guest along the link. -/
def Effect.concerns (l : Link) : Effect → Bool
  | .dial id _ => id = l.id
  | .frame _ bytes => (Segment.route? bytes).any fun (source, destination) =>
      source = l.standIn ∨ (source = l.destination ∧ destination = l.source)
  | _ => false

@[simp] theorem Effect.concerns_frame (cause : FrameCause) (s : Segment) (l : Link) :
    (Effect.frame cause s.toBytes).concerns l = true ↔
      s.source = l.standIn ∨ (s.source = l.destination ∧ s.destination = l.source) := by
  simp [concerns]

lemma Effect.Aside.not_concerns {x : Effect} (hx : x.Aside) (l : Link) : ¬x.concerns l = true := by
  cases hx <;> simp [concerns]

/-- What concerns a link goes by its identity and its endpoints. -/
lemma Effect.concerns_congr {l m : Link} (h : m.ends = l.ends) (x : Effect) :
    x.concerns m = x.concerns l := by
  obtain ⟨hid, hsource, hdestination, hstandIn⟩ := Link.ends_eq_iff.mp h
  unfold concerns
  rw [hid, hsource, hdestination, hstandIn]

/-- The request of a 4-tuple that an event brings, if it brings one. -/
def Event.request? (verify : Bool) (key : LinkKey) : Event → Option Segment
  | .input bytes => (Segment.ofBytes? verify bytes).filter fun s =>
      (s.source, s.destination) = key ∧ s.flags.opens
  | _ => none

/-- The requests of a 4-tuple among events, oldest first. -/
def requests (verify : Bool) (key : LinkKey) (events : List (Surroundings × Event)) :
    List Segment := events.filterMap (·.2.request? verify key)

/-- A link as it waits for its connection with a request, which goes out as `request`. -/
structure Link.Awaiting (l : Link) (request : Segment) (m : Link) : Prop where
  ends : m.ends = l.ends
  isOpen : m.closed = false
  socket : m.socket = none
  state : m.state = {}
  pending : m.pending = some request

/-- Segments of the guest without RST or FIN teach a new link nothing. -/
lemma LinkState.observe_of_quiet {s : Segment} (hreset : s.flags.rst = false)
    (hfin : s.flags.fin = false) (attached : Bool) :
    ({} : LinkState).observe .guest s attached = {} := by
  have hnot : ¬Phase.established ≤ Phase.synReceived := by decide
  have hhandshake : ({} : LinkState).observeHandshake .guest s.flags = {} := by
    simp [observeHandshake, hnot]
  have hack : ({} : LinkState).observeAck .guest s = {} :=
    if_neg fun h => absurd h.2.2.1 (by decide)
  rw [observe, if_neg (by simp [hreset]), hhandshake, observeFin, if_neg (by simp [hfin]), hack]
  rfl

namespace Link.Awaiting

variable {l m : Link} {request : Segment}

lemma stage_eq (h : l.Awaiting request m) : m.stage = .opening := by
  rw [stage, h.state]
  rfl

lemma not_finished (h : l.Awaiting request m) : ¬m.Finished := by
  rw [Finished, h.stage_eq, h.state]
  decide

lemma heard (h : l.Awaiting request m) {s : Segment} (hreset : s.flags.rst = false)
    (hfin : s.flags.fin = false) (now : Nat) :
    l.Awaiting request (Engine.heard m .guest s now) where
  ends := h.ends
  isOpen := h.isOpen
  socket := h.socket
  state := by
    change m.state.observe .guest s _ = {}
    rw [h.state]
    exact LinkState.observe_of_quiet hreset hfin _
  pending := h.pending

lemma repeated (h : l.Awaiting request m) {s : Segment} (hreset : s.flags.rst = false)
    (hfin : s.flags.fin = false) (now : Nat) (request' : Segment) :
    l.Awaiting request' { Engine.heard m .guest s now with pending := some request' } :=
  { h.heard hreset hfin now with pending := rfl }

lemma carried (h : l.Awaiting request m) (sent received : UInt64) (now : Nat) :
    l.Awaiting request ((m.carry sent received).touch now) :=
  ⟨h.ends, h.isOpen, h.socket, h.state, h.pending⟩

lemma swept (h : l.Awaiting request m) (c : Config) (now : Nat) :
    m.swept c now = m ∨ m.swept c now = m.dispose := by
  unfold Link.swept Config.verdict
  rw [h.stage_eq]
  dsimp only
  by_cases hidle : c.maxSyn < m.idle now
  · rw [if_pos hidle]
    exact .inr rfl
  · rw [if_neg hidle]
    exact .inl rfl

end Link.Awaiting

namespace Engine

lemma hears_of_awaiting {e : Engine} {bytes : Bytes} {s request : Segment} {l m : Link}
    (h : l.Awaiting request m) (hs : e.Reads bytes s)
    (hkey : (s.source, s.destination) = l.key) : e.Hears bytes m s :=
  ⟨hs, hkey.trans (Link.key_eq_of_ends h.ends).symm, h.isOpen⟩

/-- What has left the engine that concerns a link. -/
def about (e : Engine) (l : Link) : List Effect := e.outbox.filter (·.concerns l)

/-- An event leaves a link to wait for its connection: it does not complete it, it does not take
the link out of the table, the guest does not end the connection, and the listener does not
answer before it was asked. -/
def LeavesWaiting (e : Engine) (w : Surroundings) (l : Link) : Event → Prop
  | .input bytes => ∀ s ∈ Segment.ofBytes? e.config.verify bytes,
      ((s.source, s.destination) = l.key → s.flags.rst = false ∧ s.flags.fin = false) ∧
        (s.source = e.config.listener → s.destination ≠ l.standIn)
  | .connected id _ => id ≠ l.id
  | .dialFailed id => id ≠ l.id
  | .sweep => (e.sweep w w.now).1.links.byTuple.get? l.key = some l.id
  | .stop => (e.stop w).1.links.byTuple.get? l.key = some l.id
  | _ => True

instance (e : Engine) (w : Surroundings) (l : Link) :
    ∀ event, Decidable (e.LeavesWaiting w l event)
  | .input bytes => inferInstanceAs (Decidable (∀ s ∈ Segment.ofBytes? e.config.verify bytes, _))
  | .connected id _ => inferInstanceAs (Decidable (id ≠ l.id))
  | .dialFailed id => inferInstanceAs (Decidable (id ≠ l.id))
  | .sweep => inferInstanceAs (Decidable ((e.sweep w w.now).1.links.byTuple.get? l.key = some l.id))
  | .stop => inferInstanceAs (Decidable ((e.stop w).1.links.byTuple.get? l.key = some l.id))
  | .flow _ | .carried .. | .start => inferInstanceAs (Decidable True)

/-- Every event of a run leaves a link to wait. -/
def LeftWaiting (l : Link) : Engine → List (Surroundings × Event) → Prop
  | _, [] => True
  | e, (w, event) :: rest => e.LeavesWaiting w l event ∧ LeftWaiting l (e.step w event) rest

instance (l : Link) : ∀ (e : Engine) (events : List (Surroundings × Event)),
    Decidable (LeftWaiting l e events)
  | _, [] => inferInstanceAs (Decidable True)
  | e, (w, event) :: rest =>
    have := instDecidableLeftWaiting l (e.step w event) rest
    inferInstanceAs (Decidable (e.LeavesWaiting w l event ∧ _))

/-- A new link, with a request of the guest, waits for its connection. -/
structure Waits (e : Engine) (l : Link) (syn : Segment) : Prop where
  opens : syn.flags.opens = true
  reset : syn.flags.rst = false
  fin : syn.flags.fin = false
  dialing : l.id ∈ e.dialing
  link : ∃ m, e.links.link? l.id = some m ∧ l.Awaiting (e.translate l syn) m

section Completions

variable {e : Engine} {w : Surroundings} {id j : LinkId}

/-- The completion of another connection does not concern a link. -/
lemma link?_connected_of_ne (h : e.Coherent) (hne : j ≠ id) (socket : SocketId) :
    (e.connected w j socket).links.link? id = e.links.link? id := by
  by_cases hj : j ∈ e.dialing
  · obtain ⟨m, hm, -⟩ := h.known j hj
    obtain rfl := h.id_eq hm
    cases hclosed : m.closed with
    | true => rw [connected_of_closed hj hm hclosed, emit]
    | false => rw [link?_connected hj hm hclosed, if_neg (Ne.symm hne)]
  · rw [connected_of_notMem hj]

lemma link?_dialFailed_of_ne (h : e.Coherent) (hne : j ≠ id) :
    (e.dialFailed w j).links.link? id = e.links.link? id := by
  by_cases hj : j ∈ e.dialing
  · obtain ⟨m, hm, hsocket⟩ := h.known j hj
    obtain rfl := h.id_eq hm
    rw [links_dialFailed hj hm]
    cases hclosed : m.closed with
    | true => rw [giveUp_of_closed h hm hclosed]
    | false => rw [link?_giveUp h hm hclosed hsocket, if_neg (Ne.symm hne)]
  · rw [dialFailed_of_notMem hj]

end Completions

namespace Coherent

variable {e : Engine} {m n : Link} {s : Segment} {cause : FrameCause} (h : e.Coherent)
  (hm : e.links.link? m.id = some m) (hopen : m.closed = false)
  (hn : e.links.link? n.id = some n) (hopen' : n.closed = false)

include h hm hopen hn hopen'

lemma eq_of_key_eq (hkey : n.key = m.key) : n = m := by
  have hfound := h.findTuple_eq hn hopen'
  rw [hkey, h.findTuple_eq hm hopen] at hfound
  exact (Option.some.inj hfound).symm

lemma not_concerns_outward (hne : n.id ≠ m.id) (hs : s.source = n.standIn) :
    ¬(Effect.frame cause s.toBytes).concerns m = true := by
  rw [Effect.concerns_frame, hs]
  rintro (hstandIn | ⟨hd, -⟩)
  · exact h.standIn_ne hm hopen hn hopen' hne.symm hstandIn
  · exact h.standIn_ne_of_ip hn (h.avoids m.id m hm) hd.symm

/-- A segment that is written to the guest along a link concerns no other open link. -/
lemma eq_of_concerns_inward (hs : s.source = n.destination) (hd : s.destination = n.source)
    (hconcerns : (Effect.frame cause s.toBytes).concerns m = true) : n = m := by
  rw [Effect.concerns_frame, hs, hd] at hconcerns
  rcases hconcerns with hstandIn | ⟨hdestination, hsource⟩
  · exact absurd hstandIn (h.standIn_ne_of_ip hm (h.avoids n.id n hn))
  · exact h.eq_of_key_eq hm hopen hn hopen' (Prod.ext hsource hdestination)

end Coherent

lemma LeavesWaiting.not_completes {e : Engine} {w : Surroundings} {l : Link} {event : Event}
    (h : e.LeavesWaiting w l event) : ¬event.Completes l.id := by
  cases event <;> first | exact h | exact id

namespace Waits

variable {e e' : Engine} {w : Surroundings} {l : Link} {syn s : Segment} {bytes : Bytes}

lemma of_link (hw : e.Waits l syn) (hconfig : e'.config = e.config) (hdialing : l.id ∈ e'.dialing)
    (hlink : ∀ m, e.links.link? l.id = some m → l.Awaiting (e.translate l syn) m →
      ∃ m', e'.links.link? l.id = some m' ∧ l.Awaiting (e.translate l syn) m') :
    e'.Waits l syn where
  opens := hw.opens
  reset := hw.reset
  fin := hw.fin
  dialing := hdialing
  link := by
    obtain ⟨m, hm, hawaiting⟩ := hw.link
    rw [translate, hconfig]
    exact hlink m hm hawaiting

lemma known (hw : e.Waits l syn) (h : e.Coherent) :
    ∃ m, m.id = l.id ∧ e.links.link? m.id = some m ∧ m.id ∈ e.dialing ∧
      l.Awaiting (e.translate l syn) m := by
  obtain ⟨m, hm, hawaiting⟩ := hw.link
  have hid := h.id_eq hm
  exact ⟨m, hid, hid ▸ hm, hid ▸ hw.dialing, hawaiting⟩

/-- Any other segment of the guest goes no further while the request waits. -/
lemma held (hw : e.Waits l syn) (h : e.Coherent) (hs : e.Reads bytes s)
    (hkey : (s.source, s.destination) = l.key) (hopens : s.flags.opens = false)
    (hreset : s.flags.rst = false) (hfin : s.flags.fin = false) :
    ∃ m, (e.input w bytes).links.link? l.id = some m ∧ l.Awaiting (e.translate l syn) m := by
  obtain ⟨m, hid, hm, -, hawaiting⟩ := hw.known h
  rw [← hid]
  have hears := hears_of_awaiting hawaiting hs hkey
  have hfind : e.links.findTuple (s.source, s.destination) = some m := by
    rw [hears.key]
    exact h.findTuple_eq hm hears.isOpen
  obtain ⟨f, heq⟩ := input_of_hears h hm hears w
  refine ⟨_, ?_, hawaiting.heard hreset hfin w.now⟩
  simp only [heq, hopens, Bool.false_eq_true, if_false, processForward, links_count, hfind,
    hawaiting.pending, Option.isSome_some, if_true, hreset]
  exact (link?_modifyLink (e := e.count f) hm _ m.id).trans (if_pos rfl)

lemma replaced (hw : e.Waits l syn) (h : e.Coherent) (hs : e.Reads bytes s)
    (hkey : (s.source, s.destination) = l.key) (hopens : s.flags.opens = true)
    (hreset : s.flags.rst = false) (hfin : s.flags.fin = false)
    (hdialing : l.id ∈ (e.input w bytes).dialing) : (e.input w bytes).Waits l s := by
  obtain ⟨m, hm, hawaiting⟩ := hw.link
  have hrepeated := awaits_of_hears h hm (hears_of_awaiting hawaiting hs hkey) hopens
    hawaiting.not_finished hawaiting.socket w
  refine ⟨hopens, hreset, hfin, hdialing, _, hrepeated, ?_⟩
  rw [translate, translate, (e.relinks_input w bytes).config,
    (Link.ends_eq_iff.mp hawaiting.ends).2.2.2]
  exact hawaiting.repeated hreset hfin w.now _

/-- A segment of another 4-tuple does not reach the link, unless it answers it. -/
lemma link?_input_of_stranger (hw : e.Waits l syn) (h : e.Coherent) (hs : e.Reads bytes s)
    (hkey : (s.source, s.destination) ≠ l.key)
    (hunasked : s.source = e.config.listener → s.destination ≠ l.standIn) :
    (e.input w bytes).links.link? l.id = e.links.link? l.id := by
  obtain ⟨m, hm, hawaiting⟩ := hw.link
  have hother : m.closed = true ∨ (s.source, s.destination) ≠ m.key ∧
      (s.source = e.config.listener → s.destination.ip = e.config.gateway →
        s.destination ≠ m.standIn) := by
    rw [Link.key_eq_of_ends hawaiting.ends, (Link.ends_eq_iff.mp hawaiting.ends).2.2.2]
    exact .inr ⟨hkey, fun hsource _ => hunasked hsource⟩
  exact (leavesAlone_of_stranger h hs hm hother).link

lemma input (hw : e.Waits l syn) (h : e.Coherent) (hevent : e.LeavesWaiting w l (.input bytes)) :
    (e.input w bytes).Waits l (((Event.input bytes).request? e.config.verify l.key).getD syn) := by
  have hdialing := (e.dialing_step w (.input bytes)).stays l.id hw.dialing hevent.not_completes
  have hconfig := (e.relinks_input w bytes).config
  have hsame : (e.input w bytes).links.link? l.id = e.links.link? l.id →
      (e.input w bytes).Waits l syn := fun hlink =>
    hw.of_link hconfig hdialing fun m hm hawaiting => ⟨m, hlink.trans hm, hawaiting⟩
  cases hread : Segment.ofBytes? e.config.verify bytes with
  | none =>
    have hnot : ∀ s, ¬e.Reads bytes s := fun s hs => nomatch hread.symm.trans hs
    rw [Event.request?, hread]
    exact hsame (congrArg (LinkTable.link? · l.id) (input_of_not_reads hnot w).1)
  | some s =>
    obtain ⟨hquiet, hunasked⟩ := hevent s hread
    rw [Event.request?, hread, Option.filter_some]
    by_cases hkey : (s.source, s.destination) = l.key
    · obtain ⟨hreset, hfin⟩ := hquiet hkey
      cases hopens : s.flags.opens with
      | false =>
        rw [if_neg (by simp)]
        exact hw.of_link hconfig hdialing fun _ _ _ => hw.held h hread hkey hopens hreset hfin
      | true =>
        rw [if_pos (by simp [hkey])]
        exact hw.replaced h hread hkey hopens hreset hfin hdialing
    · rw [if_neg (by simp [hkey])]
      exact hsame (hw.link?_input_of_stranger h hread hkey hunasked)

/-- An event that leaves the link to wait keeps it waiting, with the request that the event
brings if it brings one. -/
lemma step (hw : e.Waits l syn) (h : e.Coherent) {event : Event}
    (h' : (e.step w event).Coherent) (hevent : e.LeavesWaiting w l event) :
    (e.step w event).Waits l ((event.request? e.config.verify l.key).getD syn) := by
  have hdialing := (e.dialing_step w event).stays l.id hw.dialing hevent.not_completes
  have hconfig := (e.relinks_step w h.links.labelled event).config
  -- Most events leave the link as it is.
  have hsame : (e.step w event).links.link? l.id = e.links.link? l.id →
      (e.step w event).Waits l syn := fun hlink =>
    hw.of_link hconfig hdialing fun m hm hawaiting => ⟨m, hlink.trans hm, hawaiting⟩
  cases event with
  | input bytes => exact hw.input h hevent
  | connected id socket => exact hsame (link?_connected_of_ne h hevent socket)
  | dialFailed id => exact hsame (link?_dialFailed_of_ne h hevent)
  | flow event => exact hsame (congrArg (LinkTable.link? · l.id) (spares_absorb ..).links)
  | carried id sent received =>
    refine hw.of_link hconfig hdialing fun m hm hawaiting => ?_
    have hcarried := e.links.link?_modify id l.id
      fun m => (m.carry sent received).touch w.now
    rw [hm] at hcarried
    by_cases hid : l.id = id
    · exact ⟨_, hcarried.trans (if_pos hid), hawaiting.carried sent received w.now⟩
    · exact ⟨m, hcarried.trans (if_neg hid), hawaiting⟩
  | sweep =>
    refine hw.of_link hconfig hdialing fun m hm hawaiting => ?_
    have hid := h.id_eq hm
    rw [← hid] at hm ⊢
    have hlink := link?_step_sweep w h hm hawaiting.isOpen
    rcases hawaiting.swept e.config w.now with hkept | hclosed
    · exact ⟨m, by rw [hlink, hkept], hawaiting⟩
    · rw [hclosed] at hlink
      have hopen := (h'.consistent.open_iff m.id _ hlink).mpr ?_
      · cases hopen
      · rw [Link.key_dispose, Link.key_eq_of_ends hawaiting.ends, hid]
        exact hevent
  | start => exact hsame (congrArg (LinkTable.link? · l.id) (e.links_start w))
  | stop =>
    cases hrunning : e.running with
    | false => exact hsame (by rw [Engine.step, stop_of_stopped hrunning])
    | true =>
      have hlive : (e.stop w).1.links.byTuple.get? l.key = some l.id := hevent
      rw [links_stop hrunning] at hlive
      cases hlive

/-- While the link waits, nothing that is added to the outbox concerns it. -/
lemma not_concerns (hw : e.Waits l syn) (h : e.Coherent) {event : Event}
    (hevent : e.LeavesWaiting w l event) {x : Effect} (hx : e.Emits event x) :
    ¬x.concerns l = true := by
  obtain ⟨m, hid, hm, -, hawaiting⟩ := hw.known h
  have hopen := hawaiting.isOpen
  have hstandIn := (Link.ends_eq_iff.mp hawaiting.ends).2.2.2
  rw [← Effect.concerns_congr hawaiting.ends]
  cases hx with
  | aside hx => exact hx.not_concerns m
  | @answered bytes n r hr hsource' hdestination' hn hopen' =>
    intro hconcerns
    obtain rfl := h.eq_of_concerns_inward hm hopen hn hopen' rfl rfl hconcerns
    exact (hevent r hr).2 hsource' (hdestination'.trans hstandIn)
  | @forwarded bytes n s hs hn hready =>
    have hne : n.id ≠ m.id := by
      intro he
      rw [he, hm] at hn
      obtain rfl := Option.some.inj hn
      simp [hawaiting.socket, hawaiting.pending] at hready
    exact h.not_concerns_outward hm hopen hn hs.isOpen hne rfl
  | @refused bytes s hs hreset hspoken huntaken =>
    rw [Effect.concerns_frame, Segment.source_reset, Segment.destination_reset]
    rintro (hd | ⟨hd, hs'⟩)
    · have hip : s.destination.ip = e.config.gateway := by rw [hd, h.standIn_ip hm]
      exact (hevent s hs).2 (hspoken hip) (hd.trans hstandIn)
    · have hskey : (s.source, s.destination) = m.key := Prod.ext hs' hd
      rw [hskey] at huntaken
      exact hawaiting.not_finished (huntaken m (h.findTuple_eq hm hopen))
  | dialed hs hopens huntaken =>
    simp only [Effect.concerns, decide_eq_true_eq]
    intro hnext
    rw [← hnext, h.nextId_unknown] at hm
    cases hm
  | @released n socket syn' hn hopen' hsyn =>
    have hne : n.id ≠ m.id := fun he => hevent (he.trans hid)
    exact h.not_concerns_outward hm hopen hn hopen' hne ((h.orderly n.id n hn).source syn' hsyn)
  | @failed n syn' hn hopen' hsyn =>
    intro hconcerns
    obtain rfl := h.eq_of_concerns_inward hm hopen hn hopen' (Segment.source_reset _)
      (Segment.destination_reset _) hconcerns
    exact hevent hid

lemma about_step (hw : e.Waits l syn) (h : e.Coherent) {event : Event}
    (hevent : e.LeavesWaiting w l event) : (e.step w event).about l = e.about l := by
  obtain ⟨added, houtbox, hadded⟩ := emits_step h w event
  have hnone : added.filter (·.concerns l) = [] :=
    List.filter_eq_nil_iff.mpr fun x hx => hw.not_concerns h hevent (hadded x hx)
  rw [about, houtbox, List.filter_append, hnone, List.append_nil]
  rfl

lemma known_step (hw : e.Waits l syn) (h : e.Coherent) {event : Event} {id : LinkId}
    (hid : e.links.link? id = none) {n : Link}
    (hn : (e.step w event).links.link? id = some n) : n.key ≠ l.key := by
  obtain ⟨sent, hfate, -⟩ := meets_step h w event id
  rw [hid, hn] at hfate
  cases hfate with
  | @opened bytes s port hs hopens hnew hdialing =>
    intro hkey
    obtain ⟨m, -, hm, -, hawaiting⟩ := hw.known h
    have hears : e.Hears bytes m s := hears_of_awaiting hawaiting hs hkey
    obtain ⟨f, heq⟩ := input_of_hears h hm hears w
    have hlinks := link?_processSyn_of_stays (w := w) f h hm hears hawaiting.not_finished id
    rw [if_neg, hid] at hlinks
    · rw [Engine.step, heq, if_pos hopens, hlinks] at hn
      cases hn
    · rintro rfl
      rw [hid] at hm
      cases hm

/-- Through a run that leaves it to wait, the link waits with its last request, nothing that
concerns it leaves the engine, and no other link is created for its 4-tuple. -/
lemma run (hw : e.Waits l syn) (h : e.Coherent) {events : List (Surroundings × Event)}
    (hdials : (e.run events).dials < UInt64.size) (hleft : LeftWaiting l e events) :
    (e.run events).Coherent ∧
      (e.run events).Waits l ((requests e.config.verify l.key events).getLast?.getD syn) ∧
      (e.run events).about l = e.about l ∧
      ∀ id, e.links.link? id = none → ∀ n, (e.run events).links.link? id = some n →
        n.key ≠ l.key := by
  induction events generalizing e syn with
  | nil => exact ⟨h, hw, rfl, fun id hid n hn => nomatch hid.symm.trans hn⟩
  | cons x rest ih =>
    obtain ⟨w, event⟩ := x
    obtain ⟨hevent, hrest⟩ := hleft
    have h' := h.step_of_run hdials
    have hconfig := (e.relinks_step w h.links.labelled event).config
    obtain ⟨hcoherent, hwaits, habout, hknown⟩ := ih (hw.step h h' hevent) h' hdials hrest
    refine ⟨hcoherent, ?_, habout.trans (hw.about_step h hevent), fun id hid n hn => ?_⟩
    · rw [hconfig] at hwaits
      rw [requests, List.filterMap_cons]
      cases hrequest : event.request? e.config.verify l.key with
      | none =>
        rw [hrequest] at hwaits
        exact hwaits
      | some s =>
        rw [hrequest] at hwaits
        rw [List.getLast?_cons, Option.getD_some]
        exact hwaits
    · cases hmid : (e.step w event).links.link? id with
      | none => exact hknown id hmid n hn
      | some n' =>
        obtain ⟨n'', hn'', hkey⟩ := link_persists (P := fun m => m.key = n'.key)
          (fun hfate hm => hfate.key_eq.trans hm) h' hmid rfl hdials
        obtain rfl := Option.some.inj (hn''.symm.trans hn)
        rw [hkey]
        exact hw.known_step h hid hmid

/-- When the connection opens, the request goes out, and that is all. -/
lemma outbox_connected (hw : e.Waits l syn) (h : e.Coherent) (hwrite : w.accepts = true)
    (socket : SocketId) : (e.connected w l.id socket).outbox =
      e.outbox ++ [.frame .translated (e.translate l syn).toBytes] := by
  obtain ⟨m, hid, hm, hdialing, hawaiting⟩ := hw.known h
  rw [← hid]
  exact (attaches_connected hdialing hm hawaiting.isOpen socket).written hwrite _ hawaiting.pending

/-- When it cannot be opened, the request is answered, and that is all. -/
lemma outbox_dialFailed (hw : e.Waits l syn) (h : e.Coherent) (hwrite : w.accepts = true) :
    (e.dialFailed w l.id).outbox = e.outbox ++ [.frame .reset
      ({ syn with source := l.source, destination := l.destination } : Segment).reset.toBytes] := by
  obtain ⟨m, hid, hm, hdialing, hawaiting⟩ := hw.known h
  obtain ⟨-, hsource, hdestination, -⟩ := Link.ends_eq_iff.mp hawaiting.ends
  have hgiven : (e.giveUp m).outbox = e.outbox := by
    rw [giveUp_of_open h hm hawaiting.isOpen hawaiting.socket]
  let request : Segment := { syn with source := l.source, destination := l.destination }
  have hreset : request.flags.rst = false := hw.reset
  rw [← hid, dialFailed_eq hdialing hm, hawaiting.pending, Option.elim_some, hsource, hdestination]
  change ((e.giveUp m).sendReset w request).outbox = _
  rw [outbox_sendReset hwrite hreset, hgiven]

lemma gone_of_dialFailed (hw : e.Waits l syn) (h : e.Coherent) :
    (e.dialFailed w l.id).links.findTuple l.key = none ∧
      (e.dialFailed w l.id).links.findPort l.port = none := by
  obtain ⟨m, hid, hm, hdialing, hawaiting⟩ := hw.known h
  have hgives := givesUp_dialFailed (w := w) h hdialing hm hawaiting.isOpen hawaiting.socket
  rw [hid, ← Link.key_eq_of_ends hawaiting.ends, ← Link.port_eq_of_ends hawaiting.ends] at *
  constructor
  · rw [LinkTable.findTuple, hgives.byTuple, if_pos rfl]
    rfl
  · rw [LinkTable.findPort, hgives.byPort, if_pos rfl]
    rfl

end Waits

/-- The reset that tells the guest that the connection of a link could not be opened: it
acknowledges the request and all that came with it. -/
def declined (l : Link) (syn : Segment) : Segment where
  source := l.destination
  destination := l.source
  acknowledgment := .ofNat (syn.sequence.toNat + syn.payload.length + 1)
  flags := { rst := true, ack := true }

lemma declined_eq_refusal (l : Link) {syn : Segment} (hopens : syn.flags.opens = true)
    (hfin : syn.flags.fin = false) : declined l syn =
      ({ syn with source := l.source, destination := l.destination } : Segment).refusal := by
  simp only [Flags.opens, Bool.and_eq_true, Bool.not_eq_true'] at hopens
  simp [declined, Segment.refusal, hopens, hfin]

lemma Opens.waits {e e' : Engine} {w : Surroundings} {s : Segment} {port : UInt16}
    (h : e.Opens e' w s port) (hopens : s.flags.opens = true) (hreset : s.flags.rst = false)
    (hfin : s.flags.fin = false) : e'.Waits (e.opening w s port) s where
  opens := hopens
  reset := hreset
  fin := hfin
  dialing := by
    rw [h.dialing]
    exact List.mem_append_right _ (List.mem_singleton.mpr rfl)
  link := by
    refine ⟨_, h.link, rfl, rfl, rfl, LinkState.observe_of_quiet hreset hfin _, ?_⟩
    rw [translate, h.config]
    rfl

lemma Opens.about {e e' : Engine} {w : Surroundings} {s : Segment} {port : UInt16}
    (h : e.Opens e' w s port) : e'.about (e.opening w s port) =
      e.about (e.opening w s port) ++ [.dial e.links.nextId s.destination] := by
  obtain ⟨asides, hasides, houtbox⟩ := h.outbox
  have hnone : asides.filter (·.concerns (e.opening w s port)) = [] :=
    List.filter_eq_nil_iff.mpr fun x hx => (hasides x hx).not_concerns _
  have hdial : [Effect.dial e.links.nextId s.destination].filter
      (·.concerns (e.opening w s port)) = [.dial e.links.nextId s.destination] :=
    List.filter_cons_of_pos (decide_eq_true rfl)
  rw [Engine.about, houtbox, List.filter_append, List.filter_append, hnone, List.append_nil, hdial]
  rfl

/-- The first event brings a request, and it is the last one if no other comes. -/
lemma getLast?_requests {verify : Bool} {bytes : Bytes} {s : Segment}
    (hs : Segment.ofBytes? verify bytes = some s) (hopens : s.flags.opens = true)
    (w : Surroundings) (later : List (Surroundings × Event)) :
    (requests verify (s.source, s.destination) ((w, .input bytes) :: later)).getLast? =
      some ((requests verify (s.source, s.destination) later).getLast?.getD s) := by
  have hrequest : (Event.input bytes).request? verify (s.source, s.destination) = some s := by
    rw [Event.request?, hs, Option.filter_some, if_pos (decide_eq_true ⟨rfl, hopens⟩)]
  rw [requests, List.filterMap_cons]
  simp only [hrequest, List.getLast?_cons]
  rfl

/-- In every state that a run leads to, let a request of the guest, without RST or FIN, come for a
4-tuple that has no link, to elsewhere than the gateway, while there is a free port. It creates a
link, and whatever happens then, as long as it leaves the link to wait: no other link is created
for the 4-tuple, and of all that leaves the engine, only the one connection concerns the link. If
the connection is opened then, exactly one frame is written, which is the translation of the last
request of the 4-tuple; if it cannot be opened, exactly one reset is, which goes to the guest and
acknowledges that request, and the link is gone. -/
theorem repeated_request_collapses {c : Config} {e₀ : Engine} (hbuild : build c true = .ok e₀)
    (before : List (Surroundings × Event)) (w : Surroundings) (bytes : Bytes) (first : Segment)
    (later : List (Surroundings × Event))
    (hdials : (e₀.run (before ++ (w, .input bytes) :: later)).dials < UInt64.size)
    (hs : Segment.ofBytes? c.verify bytes = some first) (hopens : first.flags.opens = true)
    (hreset : first.flags.rst = false) (hfin : first.flags.fin = false)
    (hip : first.destination.ip ≠ c.gateway)
    (hnone : (e₀.run before).links.findTuple (first.source, first.destination) = none)
    (hport : ∃ port, c.firstPort ≤ port ∧ port ≤ c.lastPort ∧ port ∉ w.reserved ∧
      (e₀.run before).links.findPort port = none) :
    let e := e₀.run before
    let e' := e.step w (.input bytes)
    let d := e'.run later
    ∃ l, l.key = (first.source, first.destination) ∧ e.links.link? l.id = none ∧
      e'.links.findTuple l.key = some l ∧
      (LeftWaiting l e' later →
        (∀ id n, d.links.link? id = some n → n.key = l.key → e.links.link? id = none → id = l.id) ∧
        d.about l = e.about l ++ [.dial l.id l.destination] ∧
        ∃ syn, (requests c.verify l.key ((w, .input bytes) :: later)).getLast? = some syn ∧
          ∀ w' : Surroundings, w'.accepts = true →
            (∀ socket, (d.step w' (.connected l.id socket)).outbox = d.outbox ++ [.frame .translated
              ({ syn with source := l.standIn, destination := c.listener } : Segment).toBytes]) ∧
            (d.step w' (.dialFailed l.id)).outbox =
              d.outbox ++ [.frame .reset (declined l syn).toBytes] ∧
            Segment.ofBytes? true (declined l syn).toBytes = some (declined l syn) ∧
            (d.step w' (.dialFailed l.id)).links.findTuple l.key = none ∧
            (d.step w' (.dialFailed l.id)).links.findPort l.port = none) := by
  intro e e' d
  obtain ⟨-, hconfig⟩ : e.Sound ∧ e.config = c := sound_run hbuild before
  have hlabelled : e₀.links.Labelled := by
    obtain ⟨-, rfl⟩ := build_eq_ok hbuild
    exact (sound_ofConfig c).links.labelled
  have h : e.Coherent := coherent_run hbuild before (dials_lt_of_append hlabelled hdials)
  rw [run_append] at hdials
  have h' : e'.Coherent := h.step_of_run hdials
  obtain ⟨hfirst, hlast⟩ := ports_run hbuild before
  have hadmits : e.Admits w first := by
    obtain ⟨port, hle, hge, hreserved, hfree⟩ := hport
    refine ⟨hopens, by rwa [hconfig], fun l hl => ?_, port, hfirst ▸ hle, hlast ▸ hge, hreserved,
      fun l hl => ?_⟩
    · cases hnone.symm.trans hl
    · cases hfree.symm.trans hl
  obtain ⟨port, hnew⟩ := opens_input h (hconfig ▸ hs) hadmits
  have htuple := (hnew.byTuple (first.source, first.destination)).trans (if_pos rfl)
  refine ⟨e.opening w first port, rfl, h.nextId_unknown, LinkTable.findTuple_eq htuple hnew.link,
    fun hleft => ?_⟩
  have hwaits : e'.Waits (e.opening w first port) first := hnew.waits hopens hreset hfin
  have hconfig' : e'.config = c := hnew.config.trans hconfig
  obtain ⟨hcoherent, hlater, habout, hknown⟩ := hwaits.run h' hdials hleft
  have hlistener : d.config = c := (e'.relinks_run h'.links.labelled later).config.trans hconfig'
  rw [hconfig'] at hlater
  obtain ⟨syn, hsyn⟩ : ∃ syn, syn =
      (requests c.verify (e.opening w first port).key later).getLast?.getD first := ⟨_, rfl⟩
  rw [← hsyn] at hlater
  refine ⟨fun id n hn hkey hid => ?_, habout.trans hnew.about, syn,
    hsyn ▸ getLast?_requests hs hopens w later, fun w' hwrite => ⟨fun socket => ?_, ?_, ?_, ?_⟩⟩
  · by_contra hne
    exact hknown id (hnew.known id hne hid) n hn hkey
  · have hout := hlater.outbox_connected hcoherent hwrite socket
    rw [translate, hlistener] at hout
    exact hout
  · have hout := hlater.outbox_dialFailed hcoherent hwrite
    rw [Segment.reset_eq_refusal, ← declined_eq_refusal _ hlater.opens hlater.fin] at hout
    exact hout
  · rw [declined_eq_refusal _ hlater.opens hlater.fin]
    exact Segment.ofBytes?_refusal _ true
  · exact hlater.gone_of_dialFailed hcoherent

/-- The guest sends data early, and repeats its request with data at the end of the numbers, while
another guest opens a connection from the same port and a sweep passes. Only the repeated request
is written, or answered. -/
theorem repeated_request_collapses_renumbered :
    let first : Segment :=
      { source := ⟨⟨10, 0, 0, 5⟩, 51000⟩, destination := ⟨⟨93, 184, 216, 34⟩, 80⟩
        flags := { syn := true }, sequence := 100 }
    let early : Segment :=
      { first with flags := { ack := true }, sequence := 101, payload := [104] }
    let other : Segment := { first with source := ⟨⟨10, 0, 0, 6⟩, 51000⟩ }
    let last : Segment := { first with sequence := 4294967295, payload := [104, 105] }
    let translated : Segment :=
      { last with source := ⟨⟨10, 0, 0, 2⟩, 49152⟩, destination := ⟨⟨10, 0, 0, 1⟩, 7070⟩ }
    let refusal : Segment :=
      { source := first.destination, destination := first.source, acknowledgment := 2
        flags := { rst := true, ack := true } }
    let later : List (Surroundings × Event) :=
      [({ now := 10 }, .input early.toBytes), ({ now := 20 }, .input other.toBytes),
        ({ now := 1000 }, .input last.toBytes), ({ now := 9000 }, .sweep),
        ({ now := 9000 }, .connected 2 7)]
    let e := (ofConfig {}).step {} (.input first.toBytes)
    let d := e.run later
    ∃ l, l.id = 1 ∧ e.links.findTuple (first.source, first.destination) = some l ∧
      build {} true = .ok (ofConfig {}) ∧ LeftWaiting l e later ∧
      d.about l = [.dial 1 first.destination] ∧
      (d.step {} (.connected 1 5)).outbox = d.outbox ++ [.frame .translated translated.toBytes] ∧
      (d.step {} (.dialFailed 1)).outbox = d.outbox ++ [.frame .reset refusal.toBytes] := by
  intro first early other last translated refusal later e d
  have hbuild : build {} true = .ok (ofConfig {}) := rfl
  obtain ⟨l, hkey, -, hfind, hcollapses⟩ := repeated_request_collapses hbuild [] {} first.toBytes
    first later (by decide +kernel) (by decide +kernel) rfl rfl rfl (by decide) rfl
    ⟨49152, by decide, by decide, List.not_mem_nil, rfl⟩
  rw [hkey] at hfind
  obtain ⟨hid, hstandIn, hleft⟩ : l.id = 1 ∧ l.standIn = ⟨⟨10, 0, 0, 2⟩, 49152⟩ ∧
      LeftWaiting l e later :=
    (by decide +kernel : ∀ m ∈ e.links.findTuple (first.source, first.destination), m.id = 1 ∧
      m.standIn = ⟨⟨10, 0, 0, 2⟩, 49152⟩ ∧ LeftWaiting m e later) l hfind
  have hlast : (requests true (first.source, first.destination)
      (({}, .input first.toBytes) :: later)).getLast? = some last := by decide +kernel
  have hsource : l.source = first.source := congrArg Prod.fst hkey
  have hdestination : l.destination = first.destination := congrArg Prod.snd hkey
  have hdeclined : declined l last = refusal := by
    rw [declined, hsource, hdestination]
    decide +kernel
  obtain ⟨-, habout, syn, hsyn, hcompletes⟩ := hcollapses hleft
  rw [hkey] at hsyn
  obtain rfl : last = syn := Option.some.inj (hlast.symm.trans hsyn)
  obtain ⟨hconnected, hfailed, -⟩ := hcompletes {} rfl
  rw [hid] at hconnected hfailed habout
  rw [hdestination] at habout
  rw [hstandIn] at hconnected
  rw [hdeclined] at hfailed
  exact ⟨l, hid, hfind, hbuild, hleft, habout, hconnected 5, hfailed⟩

end Engine

end GuestNat
