import GuestNat.Proofs.Engine.Completion
import GuestNat.Proofs.Engine.Emissions

/-!
# When a segment opens a link

A request of the guest opens a link if its 4-tuple has none, or only a finished one that gives
way, and if the range has a port left for it (`Admits`). Then exactly one link is created, at a
port that was free, and its connection is asked for (`opens_input`); otherwise nothing is opened
at all (`opensNothing_input`). A reset bit makes no difference to that, although it makes one to
everything else: a segment that carries it is answered with nothing, and the link that it opens
is closed from birth (`reset_opens_iff`).
-/
namespace GuestNat

namespace Engine

/-- A segment asks for a link that is not there and that there is a port for: a port of the range
that the host has not reserved, and that no link has but the one that gives way. -/
structure Admits (e : Engine) (w : Surroundings) (s : Segment) : Prop where
  request : s.flags.opens = true
  outward : s.destination.ip ≠ e.config.gateway
  untaken : ∀ l, e.links.findTuple (s.source, s.destination) = some l → l.Finished
  port : ∃ port, e.links.ports.first ≤ port ∧ port ≤ e.links.ports.last ∧ port ∉ w.reserved ∧
    ∀ l, e.links.findPort port = some l → l.key = (s.source, s.destination)

/-- The link that a request opens at a port. -/
def opening (e : Engine) (w : Surroundings) (s : Segment) (port : UInt16) : Link :=
  let l := e.links.fresh (s.source, s.destination) port w.now
  { l.observe .guest s with pending := some (e.translate l s) }

/-- A request has opened a link at a port, and its connection was asked for. -/
structure Opens (e e' : Engine) (w : Surroundings) (s : Segment) (port : UInt16) : Prop where
  config : e'.config = e.config
  first_le : e.links.ports.first ≤ port
  le_last : port ≤ e.links.ports.last
  unreserved : port ∉ w.reserved
  free : ∀ l, e.links.findPort port = some l → l.key = (s.source, s.destination)
  link : e'.links.link? e.links.nextId = some (e.opening w s port)
  known : ∀ id, id ≠ e.links.nextId → e.links.link? id = none → e'.links.link? id = none
  byTuple : ∀ k, e'.links.byTuple.get? k =
    if k = (s.source, s.destination) then some e.links.nextId else e.links.byTuple.get? k
  byPort : e'.links.byPort.get? port = some e.links.nextId
  dialing : e'.dialing = e.dialing ++ [e.links.nextId]
  outbox : ∃ asides : List Effect, (∀ x ∈ asides, x.Aside) ∧
    e'.outbox = e.outbox ++ asides ++ [.dial e.links.nextId s.destination]

/-- No link was created, no port given away, and no connection asked for. -/
structure OpensNothing (e e' : Engine) : Prop where
  nextId : e'.links.nextId = e.links.nextId
  ports : e'.links.ports = e.links.ports
  known : ∀ id, e.links.link? id = none → e'.links.link? id = none
  byPort : ∀ p id, e'.links.byPort.get? p = some id → e.links.byPort.get? p = some id
  dialing : e'.dialing = e.dialing
  dials : e'.dials = e.dials

namespace OpensNothing

variable {e e' e'' : Engine}

lemma of_spares (h : e.Spares e') (hdialing : e'.dialing = e.dialing) : e.OpensNothing e' where
  nextId := by rw [h.links]
  ports := by rw [h.links]
  known id hid := by rwa [h.links]
  byPort p id hp := by rwa [h.links] at hp
  dialing := hdialing
  dials := h.dials

lemma trans (h : e.OpensNothing e') (h' : e'.OpensNothing e'') : e.OpensNothing e'' where
  nextId := h'.nextId.trans h.nextId
  ports := h'.ports.trans h.ports
  known id hid := h'.known id (h.known id hid)
  byPort p id hp := h.byPort p id (h'.byPort p id hp)
  dialing := h'.dialing.trans h.dialing
  dials := h'.dials.trans h.dials

lemma count (e : Engine) (f : Counters → Counters) : e.OpensNothing (e.count f) :=
  of_spares (e.spares_count f) rfl

lemma modifyLink (e : Engine) (id : LinkId) (f : Link → Link) :
    e.OpensNothing (e.modifyLink id f) where
  nextId := rfl
  ports := rfl
  known j hj := by
    rw [Engine.modifyLink, LinkTable.link?_modify, hj, Option.map_none, ite_self]
  byPort _ _ hp := hp
  dialing := rfl
  dials := rfl

lemma write (e : Engine) (w : Surroundings) (cause : FrameCause) (f : Frame) :
    e.OpensNothing (e.write w cause f) := of_spares (e.spares_write w cause f) (dialing_write ..)

lemma sendReset (e : Engine) (w : Surroundings) (s : Segment) :
    e.OpensNothing (e.sendReset w s) := of_spares (e.spares_sendReset w s) (dialing_sendReset ..)

lemma dropFinished (e : Engine) (key : LinkKey) : e.OpensNothing (e.dropFinished key) where
  nextId := e.nextId_dropFinished key
  ports := e.ports_dropFinished key
  known _ := e.link?_dropFinished_eq_none key
  byPort p id hp := by
    rcases e.dropFinished_links key with hlinks | ⟨l, hlinks⟩
    · rwa [hlinks] at hp
    · rw [hlinks, LinkTable.byPort_drop] at hp
      split at hp
      · cases hp
      · exact hp
  dialing := e.dialing_dropFinished key
  dials := by
    obtain ⟨asides, houtbox, hasides⟩ :=
      e.adds_dropFinished (P := Effect.Aside) (fun _ hx => hx) key
    have hnone : asides.countP Effect.isDial = 0 := by
      refine List.countP_eq_zero.mpr fun x hx => ?_
      cases hasides x hx <;> exact Bool.false_ne_true
    rw [Engine.dials, houtbox, List.countP_append, hnone]
    rfl

lemma processReply (e : Engine) (w : Surroundings) (s : Segment) :
    e.OpensNothing (e.processReply w s) := by
  unfold Engine.processReply
  split
  · exact .sendReset ..
  · exact (OpensNothing.modifyLink ..).trans (.write ..)

lemma processForward (e : Engine) (w : Surroundings) (s : Segment) :
    e.OpensNothing (e.processForward w s) := by
  unfold Engine.processForward
  split
  · exact .sendReset ..
  · dsimp only
    split_ifs
    · exact (OpensNothing.modifyLink ..).trans (.modifyLink ..)
    · exact .modifyLink ..
    · exact (OpensNothing.modifyLink ..).trans (.write ..)

lemma repeatSyn (e : Engine) (w : Surroundings) (l : Link) (s : Segment) :
    e.OpensNothing (e.repeatSyn w l s) := by
  unfold Engine.repeatSyn
  dsimp only
  split
  · exact (OpensNothing.modifyLink ..).trans (.write ..)
  · exact (OpensNothing.modifyLink ..).trans (.modifyLink ..)

end OpensNothing

section Requests

variable {e : Engine} {w : Surroundings} {bytes : Bytes} {s : Segment} (f : Counters → Counters)

/-- The finished link of a 4-tuple leaves its port and no other. -/
lemma byPort_dropFinished_eq_none_iff (h : e.Coherent) {key : LinkKey}
    (huntaken : ∀ l, e.links.findTuple key = some l → l.Finished) (port : UInt16) :
    ((e.count f).dropFinished key).links.byPort.get? port = none ↔
      ∀ l, e.links.findPort port = some l → l.key = key := by
  obtain ⟨hnone, hlinks⟩ | ⟨m, hm, hlinks⟩ := links_dropFinished f h huntaken
  · rw [hlinks, h.byPort_eq_none_iff, Option.eq_none_iff_forall_ne_some]
    refine forall_congr' fun l => ⟨fun hfree hl => absurd hl hfree, fun hkey hl => ?_⟩
    obtain ⟨hlink, hopen, -⟩ := h.of_findPort hl
    have hfound := h.findTuple_eq hlink hopen
    rw [hkey hl, LinkTable.findTuple, hnone] at hfound
    cases hfound
  · obtain ⟨hlink, hopen, hkey⟩ := h.of_findTuple hm
    have hport := h.findPort_eq hlink hopen
    rw [hlinks, LinkTable.byPort_drop, ite_eq_left_iff, h.byPort_eq_none_iff,
      Option.eq_none_iff_forall_ne_some]
    constructor
    · intro hfree l hl
      by_cases heq : port = m.port
      · rw [heq, hport] at hl
        rw [← Option.some.inj hl, hkey]
      · exact absurd hl (hfree heq l)
    · intro hfree hne l hl
      obtain ⟨hlink', hopen', hlport⟩ := h.of_findPort hl
      have hfound := h.findTuple_eq hlink' hopen'
      rw [hfree l hl, hm] at hfound
      obtain rfl := Option.some.inj hfound
      exact hne hlport.symm

lemma opens_openLink {d : Engine} {port : UInt16} {l : Link}
    (hl : l = e.links.fresh (s.source, s.destination) port w.now) (hconfig : d.config = e.config)
    (hrange : e.links.ports.first ≤ port ∧ port ≤ e.links.ports.last)
    (hreserved : port ∉ w.reserved)
    (hfree : ∀ m, e.links.findPort port = some m → m.key = (s.source, s.destination))
    (hlink : d.links.link? l.id = some l)
    (hknown : ∀ id, id ≠ e.links.nextId → e.links.link? id = none → d.links.link? id = none)
    (htuple : ∀ k, d.links.byTuple.get? k =
      if k = (s.source, s.destination) then some e.links.nextId else e.links.byTuple.get? k)
    (hport : d.links.byPort.get? port = some e.links.nextId)
    (hdialing : d.dialing = e.dialing) (hadds : Adds Effect.Aside e d) :
    e.Opens (d.openLink l s) w s port := by
  have hnew : ∀ j, (d.openLink l s).links.link? j =
      if j = l.id then some { l.observe .guest s with pending := some (e.translate l s) }
      else d.links.link? j := by
    intro j
    change (d.modifyLink l.id _).links.link? j = _
    rw [link?_modifyLink hlink]
    simp only [translate, ← hconfig]
  obtain ⟨asides, houtbox, hasides⟩ := hadds
  subst hl
  constructor
  case config => exact hconfig
  case first_le => exact hrange.1
  case le_last => exact hrange.2
  case unreserved => exact hreserved
  case free => exact hfree
  case link => exact (hnew _).trans (if_pos rfl)
  case known => exact fun id hne hid => ((hnew id).trans (if_neg hne)).trans (hknown id hne hid)
  case byTuple => exact htuple
  case byPort => exact hport
  case dialing => exact congrArg (· ++ [e.links.nextId]) hdialing
  case outbox =>
    refine ⟨asides, hasides, ?_⟩
    rw [← houtbox]
    rfl

/-- A request whose 4-tuple is untaken opens a link if there is a port for it, and else nothing. -/
lemma processSyn_of_untaken (h : e.Coherent)
    (huntaken : ∀ l, e.links.findTuple (s.source, s.destination) = some l → l.Finished) :
    (∃ port, e.Opens ((e.count f).processSyn w s) w s port) ∨
      ((∀ port, e.links.ports.first ≤ port → port ≤ e.links.ports.last → port ∉ w.reserved →
          ∃ l, e.links.findPort port = some l ∧ l.key ≠ (s.source, s.destination)) ∧
        e.OpensNothing ((e.count f).processSyn w s)) := by
  have hadds : Adds Effect.Aside e ((e.count f).dropFinished (s.source, s.destination)) :=
    adds_dropFinished _ (fun _ hx => hx) _
  have hnothing := (OpensNothing.count e f).trans (.dropFinished _ (s.source, s.destination))
  have hway := givesWay_dropFinished f h huntaken
  have htuple := byTuple_dropFinished f h huntaken
  have hport := byPort_dropFinished_eq_none_iff f h huntaken
  unfold processSyn
  generalize (e.count f).dropFinished (s.source, s.destination) = d
    at hadds hnothing hway htuple hport ⊢
  have hcursor : d.links.ports.first ≤ d.links.ports.last → d.links.ports.Valid := by
    rw [hnothing.ports]
    exact h.consistent.cursor
  dsimp only
  rcases d.links.allocate_of_vacant hcursor hway.free w.reserved w.now with
    ⟨k, -, ⟨hfirst, hlast, hfree, hreserved⟩, -, ha⟩ | ⟨hall, ha⟩
  · generalize d.links.ports.ahead k = port at hfirst hlast hfree hreserved ha
    generalize ({ d.links.ports with cursor := _ } : PortPool) = ports at ha
    have hcreated := LinkTable.link?_create (t := { d.links with ports }) (s.source, s.destination)
      port w.now
    have hlink := (hcreated d.links.nextId).trans (if_pos rfl)
    rw [hnothing.ports] at hfirst hlast
    rw [ha]
    simp only [hlink]
    refine .inl ⟨port, opens_openLink (hway.fresh ports _ port w.now) hway.config ⟨hfirst, hlast⟩
      hreserved ((hport port).mp hfree) hlink (fun id hne hid => ?_) (fun k => ?_) ?_
      hnothing.dialing (hadds.trans (adds_emit _ .portQuery))⟩
    · rw [← hnothing.nextId] at hne
      exact ((hcreated id).trans (if_neg hne)).trans (hnothing.known id hid)
    · refine (LinkTable.byTuple_create ..).trans ?_
      rw [← hnothing.nextId]
      split
      · rfl
      · rename_i hk
        exact (htuple k).trans (if_neg hk)
    · rw [← hnothing.nextId]
      exact (LinkTable.byPort_create ..).trans (if_pos rfl)
  · rw [ha]
    refine .inr ⟨fun port hfirst hlast hreserved => ?_, ?_⟩
    · rw [← hnothing.ports] at hfirst hlast
      have htaken := mt (hport port).mpr fun hfree => hall port ⟨hfirst, hlast, hfree, hreserved⟩
      simpa only [not_forall, exists_prop] using htaken
    · have hquery : d.OpensNothing (d.emit .portQuery) := .of_spares (d.spares_emit rfl) rfl
      exact (hnothing.trans hquery).trans (.sendReset ..)

lemma opens_input (h : e.Coherent) (hs : e.Reads bytes s) (hadmits : e.Admits w s) :
    ∃ port, e.Opens (e.input w bytes) w s port := by
  obtain ⟨f, heq⟩ := input_of_reads hs w
  rw [heq, processTcp, config_count, if_neg hadmits.outward, if_pos hadmits.request]
  refine (processSyn_of_untaken f h hadmits.untaken).resolve_right ?_
  rintro ⟨hall, -⟩
  obtain ⟨port, hfirst, hlast, hreserved, hfree⟩ := hadmits.port
  obtain ⟨l, hl, hne⟩ := hall port hfirst hlast hreserved
  exact hne (hfree l hl)

/-- No other segment opens anything. -/
lemma opensNothing_input (h : e.Coherent) (hs : e.Reads bytes s) (hadmits : ¬e.Admits w s) :
    e.OpensNothing (e.input w bytes) := by
  obtain ⟨f, heq⟩ := input_of_reads hs w
  have hcounted := OpensNothing.count e f
  rw [heq, processTcp, config_count]
  split_ifs with hip hsource hopens
  · exact hcounted.trans (.processReply ..)
  · exact hcounted.trans (.count ..)
  · by_cases hstays : ∃ l, e.links.findTuple (s.source, s.destination) = some l ∧ ¬l.Finished
    · obtain ⟨l, hl, hstays⟩ := hstays
      obtain ⟨hlink, hopen, hkey⟩ := h.of_findTuple hl
      rw [processSyn_of_stays f h hlink ⟨hs, hkey.symm, hopen⟩ hstays]
      exact (hcounted.trans (.modifyLink _ l.id (·.touch w.now))).trans (.repeatSyn ..)
    · simp only [not_exists, not_and, not_not] at hstays
      obtain ⟨port, hnew⟩ | ⟨-, hnothing⟩ := processSyn_of_untaken (w := w) f h hstays
      · exact absurd ⟨hopens, hip, hstays, port, hnew.first_le, hnew.le_last, hnew.unreserved,
          hnew.free⟩ hadmits
      · exact hnothing
  · exact hcounted.trans (.processForward ..)

/-- Whatever else it says, a segment with a reset bit makes the engine write no reset. -/
lemma not_reset_of_emits (hs : e.Reads bytes s) (hreset : s.flags.rst = true) (out : Bytes) :
    ¬e.Emits (.input bytes) (.frame .reset out) := by
  intro h
  cases h with
  | aside hx => cases hx
  | refused hs' hreset' =>
    obtain rfl := Option.some.inj (hs.symm.trans hs')
    simp [hreset] at hreset'

/-- A link is closed from birth if the request that opened it is a reset. -/
lemma stage_opening_of_reset (hreset : s.flags.rst = true) (port : UInt16) :
    (e.opening w s port).stage = .closed := by
  simp [opening, LinkTable.fresh, Link.stage, Link.observe, LinkState.observe, LinkState.stage,
    LinkState.setPhase, hreset]

end Requests

lemma ports_run {c : Config} {runtime : Bool} {e : Engine} (hbuild : build c runtime = .ok e)
    (events : List (Surroundings × Event)) :
    (e.run events).links.ports.first = c.firstPort ∧
      (e.run events).links.ports.last = c.lastPort := by
  obtain ⟨-, rfl⟩ := build_eq_ok hbuild
  have h := sound_ofConfig c
  obtain ⟨-, requests, -, hlinks, -⟩ := (ofConfig c).relinks_run h.links.labelled events
  rw [hlinks]
  exact (LinkTable.run_range _ requests).2

/-- In every state that a run leads to, a segment with a reset bit, whatever its other bits, makes
the engine write no reset. It opens a link exactly if it is also a request, to elsewhere than the
gateway, whose 4-tuple has no link or a finished one, and a port of the range is left for it:
then one link is created, closed from birth, and its connection is asked for. Otherwise no link
is created, no port given away and no connection asked for. -/
theorem reset_opens_iff_admitted {c : Config} {e₀ : Engine} (hbuild : build c true = .ok e₀)
    (events : List (Surroundings × Event)) (hdials : (e₀.run events).dials < UInt64.size) :
    let e := e₀.run events
    (e.links.ports.first = c.firstPort ∧ e.links.ports.last = c.lastPort) ∧
    ∀ (w : Surroundings) (bytes : Bytes) (s : Segment),
      Segment.ofBytes? c.verify bytes = some s → s.flags.rst = true →
      (∃ added, (e.input w bytes).outbox = e.outbox ++ added ∧
        ∀ out, .frame .reset out ∉ added) ∧
      (e.Admits w s → ∃ port, e.Opens (e.input w bytes) w s port ∧
        (e.opening w s port).stage = .closed) ∧
      (¬e.Admits w s → e.OpensNothing (e.input w bytes)) := by
  intro e
  have h : e.Coherent := coherent_run hbuild events hdials
  have hconfig : e.config = c := (sound_run hbuild events).2
  refine ⟨ports_run hbuild events, fun w bytes s hs hreset => ?_⟩
  rw [← hconfig] at hs
  refine ⟨?_, fun hadmits => ?_, opensNothing_input h hs⟩
  · obtain ⟨added, houtbox, hadded⟩ : Adds (e.Emits (.input bytes)) e (e.input w bytes) :=
      emits_input h
    exact ⟨added, houtbox, fun out hout => not_reset_of_emits hs hreset out (hadded _ hout)⟩
  · obtain ⟨port, hopens⟩ := opens_input h hs hadmits
    exact ⟨port, hopens, stage_opening_of_reset hreset port⟩

/-- A reset ends the connection of the guest. Another one, that is also a request, opens the next
link at the port after, and a third, that is not, opens nothing. -/
theorem reset_opens_iff_admitted_twice :
    let syn : Segment :=
      { source := ⟨⟨10, 0, 0, 5⟩, 51000⟩, destination := ⟨⟨93, 184, 216, 34⟩, 80⟩
        flags := { syn := true }, sequence := 100 }
    let rst : Segment := { syn with flags := { rst := true }, sequence := 101 }
    let both : Segment := { syn with flags := { syn := true, rst := true } }
    let e := (ofConfig {}).run [({}, .input syn.toBytes), ({}, .input rst.toBytes)]
    build {} true = .ok (ofConfig {}) ∧ e.dials < UInt64.size ∧ e.Admits {} both ∧
      (∃ port, e.Opens (e.input {} both.toBytes) {} both port ∧
        (e.opening {} both port).stage = .closed) ∧
      e.OpensNothing (e.input {} rst.toBytes) := by
  intro syn rst both e
  have hbuild : build {} true = .ok (ofConfig {}) := rfl
  have hdials : e.dials < UInt64.size := by decide +kernel
  let l := (e.links.findTuple (both.source, both.destination)).getD default
  have hl : e.links.findTuple (both.source, both.destination) = some l := by decide +kernel
  have hadmits : e.Admits {} both := by
    have hfinished : l.Finished := by decide +kernel
    have hfree : e.links.findPort 60000 = none := by decide +kernel
    constructor
    case request => rfl
    case outward => decide
    case untaken => exact fun m hm => Option.some.inj (hl.symm.trans hm) ▸ hfinished
    case port =>
      exact ⟨60000, by decide +kernel, by decide +kernel, List.not_mem_nil,
        fun m hm => nomatch hfree.symm.trans hm⟩
  obtain ⟨-, hrun⟩ :=
    reset_opens_iff_admitted hbuild [({}, .input syn.toBytes), ({}, .input rst.toBytes)] hdials
  obtain ⟨-, hopens, -⟩ := hrun {} both.toBytes both (by decide +kernel) rfl
  obtain ⟨-, -, hnothing⟩ := hrun {} rst.toBytes rst (by decide +kernel) rfl
  exact ⟨hbuild, hdials, hadmits, hopens hadmits, hnothing fun ha => absurd ha.request (by decide)⟩

/-- A reset that is also a request creates a link of a new engine, takes a port and has a
connection opened for a link that is closed already. -/
theorem reset_opens_link :
    let both : Segment :=
      { source := ⟨⟨10, 0, 0, 5⟩, 51000⟩, destination := ⟨⟨93, 184, 216, 34⟩, 80⟩
        flags := { syn := true, rst := true }, sequence := 100 }
    let e := (ofConfig {}).input {} both.toBytes
    build {} true = .ok (ofConfig {}) ∧ Segment.ofBytes? true both.toBytes = some both ∧
      both.flags.rst = true ∧ e.links.nextId = 2 ∧ e.links.byPort.get? 49152 = some 1 ∧
      (e.links.link? 1).map (·.stage) = some .closed ∧ e.dialing = [1] ∧
      e.outbox = [.portQuery, .dial 1 both.destination] := by
  refine ⟨rfl, ?_, rfl, ?_, ?_, ?_, ?_, ?_⟩ <;> decide +kernel

end Engine

end GuestNat
