import GuestNat.Proofs.Engine.Datagrams
import GuestNat.Proofs.Link.Consistency
import GuestNat.Proofs.Link.Pairing

/-!
# What an engine does to its links

Whatever happens to an engine, its link table only sees requests: `Relinks e e'` says
that the links of `e'` are those of `e` after requests, none of which asks for a link to
the gateway, and that a connection was dialed for each link that was created. So what
holds of every table after requests holds in every run (`relinks_run`, `sound_run`).
-/
namespace GuestNat

/-- Whether an effect asks for the connection of a new link. -/
def Effect.isDial : Effect → Bool
  | .dial _ _ => true
  | _ => false

namespace Engine

/-- The number of connections that were asked for. -/
def dials (e : Engine) : Nat := e.outbox.countP Effect.isDial

/-- The engine has changed in nothing that concerns its links. -/
structure Spares (e e' : Engine) : Prop where
  config : e'.config = e.config
  links : e'.links = e.links
  dials : e'.dials = e.dials

section Views

variable (e : Engine) (w : Surroundings)

@[simp] theorem links_count (f : Counters → Counters) : (e.count f).links = e.links := rfl

@[simp] theorem config_count (f : Counters → Counters) : (e.count f).config = e.config := rfl

@[simp] theorem dials_emit (x : Effect) : (e.emit x).dials = e.dials + x.isDial.toNat := by
  simp only [dials, emit, List.countP_append, List.countP_singleton]
  cases x.isDial <;> rfl

@[simp] theorem dials_openLink (l : Link) (s : Segment) :
    (e.openLink l s).dials = e.dials + 1 := by
  unfold openLink
  rw [dials_emit]
  rfl

lemma Spares.refl : e.Spares e := ⟨rfl, rfl, rfl⟩

lemma Spares.trans {e e' e'' : Engine} (h : e.Spares e') (h' : e'.Spares e'') : e.Spares e'' :=
  ⟨h'.config.trans h.config, h'.links.trans h.links, h'.dials.trans h.dials⟩

lemma spares_count (f : Counters → Counters) : e.Spares (e.count f) := ⟨rfl, rfl, rfl⟩

lemma spares_emit {x : Effect} (hx : x.isDial = false) : e.Spares (e.emit x) :=
  ⟨rfl, rfl, by rw [dials_emit, hx]; rfl⟩

lemma spares_append {effects : List Effect} (h : ∀ x ∈ effects, x.isDial = false) :
    e.Spares { e with outbox := e.outbox ++ effects } := by
  refine ⟨rfl, rfl, ?_⟩
  have hzero : effects.countP Effect.isDial = 0 :=
    List.countP_eq_zero.mpr fun x hx => Bool.eq_false_iff.mp (h x hx)
  rw [dials, List.countP_append, hzero]
  rfl

lemma spares_write (cause : FrameCause) (f : Frame) : e.Spares (e.write w cause f) := by
  unfold write
  split
  · exact (e.spares_emit rfl).trans (spares_count ..)
  · exact e.spares_count _

@[simp] theorem links_write (cause : FrameCause) (f : Frame) :
    (e.write w cause f).links = e.links := (e.spares_write w cause f).links

lemma spares_sendReset (s : Segment) : e.Spares (e.sendReset w s) := by
  unfold sendReset
  split
  · exact .refl e
  · have h := e.spares_write w .reset s.reset.toFrame
    dsimp only
    split
    · exact h.trans (spares_count ..)
    · exact h

lemma spares_hangUp (ls : List Link) : e.Spares (e.hangUp ls) := by
  apply spares_append
  intro x hx
  obtain ⟨socket, -, rfl⟩ := List.mem_map.mp hx
  rfl

lemma spares_noteRouting (answers : List RoutingAnswer) : e.Spares (e.noteRouting answers) := by
  have h : ∀ x ∈ answers.map Effect.routed, x.isDial = false := by
    intro x hx
    obtain ⟨answer, -, rfl⟩ := List.mem_map.mp hx
    rfl
  exact ⟨rfl, rfl, (e.spares_append h).dials⟩

lemma spares_absorb (effects : List FlowEffect) : e.Spares (e.absorb w effects) := by
  exact absorb_induction (P := e.Spares) e effects (.refl e)
    (fun _ _ h => h.trans (spares_write ..)) fun _ _ h => h.trans (spares_emit _ rfl)

end Views

lemma stop_of_stopped {e : Engine} {w : Surroundings} (hrunning : e.running = false) :
    e.stop w = (e, .error .notRunning) := by
  rw [stop, hrunning]
  rfl

/-- The links of an engine have changed by requests, and each that was created was dialed. -/
structure Relinks (e e' : Engine) : Prop where
  config : e'.config = e.config
  requests : ∃ requests : List LinkRequest, (∀ r ∈ requests, r.Admissible e.config.gateway) ∧
    e'.links = e.links.run requests ∧ e'.dials = e.dials + e.links.creations requests

namespace Relinks

variable {e e' e'' : Engine}

lemma of_spares (h : e.Spares e') : e.Relinks e' :=
  ⟨h.config, [], List.forall_mem_nil _, h.links, h.dials⟩

lemma refl (e : Engine) : e.Relinks e := of_spares (.refl e)

lemma trans (h : e.Relinks e') (h' : e'.Relinks e'') : e.Relinks e'' := by
  obtain ⟨hc, xs, hxs, hl, hd⟩ := h
  obtain ⟨hc', ys, hys, hl', hd'⟩ := h'
  refine ⟨hc'.trans hc, xs ++ ys, ?_, ?_, ?_⟩
  · rw [hc] at hys
    exact fun r hr => (List.mem_append.mp hr).elim (hxs r) (hys r)
  · rw [hl', hl, LinkTable.run_append]
  · rw [hd', hd, hl, LinkTable.creations_append, Nat.add_assoc]

lemma then_spares (h : e.Relinks e') (h' : e'.Spares e'') : e.Relinks e'' := h.trans (of_spares h')

lemma of_request {r : LinkRequest} (hconfig : e'.config = e.config)
    (hlinks : e'.links = e.links.obey r) (hdials : e'.dials = e.dials)
    (hadm : r.Admissible e.config.gateway) (hcreates : e.links.creates r = false) :
    e.Relinks e' := by
  refine ⟨hconfig, [r], ?_, hlinks, ?_⟩
  · simpa using hadm
  · rw [hdials, LinkTable.creations, LinkTable.creations, hcreates]
    rfl

lemma labelled (h : e.Relinks e') (hl : e.links.Labelled) : e'.links.Labelled := by
  obtain ⟨-, requests, -, hlinks, -⟩ := h
  rw [hlinks]
  exact hl.run requests

end Relinks

section Steps

variable (e : Engine) (w : Surroundings)

lemma relinks_modifyLink (id : LinkId) {f : Link → Link} (hf : Link.InPlace f) :
    e.Relinks (e.modifyLink id f) :=
  .of_request (r := .change id f hf) rfl rfl rfl trivial rfl

lemma relinks_replace {id : LinkId} {l : Link} (hl : e.links.link? id = some l)
    {f : Link → Link} (hf : Link.InPlace f) : e.Relinks (e.modifyLink id fun _ => f l) := by
  have h : e.modifyLink id (fun _ => f l) = e.modifyLink id f := by
    have hm : e.links.links.modify id (fun _ => f l) = e.links.links.modify id f := by
      apply Table.modify_congr
      intro m hm
      rw [Option.some.inj (hm.symm.trans hl)]
    rw [modifyLink, modifyLink, LinkTable.modify, LinkTable.modify, hm]
  rw [h]
  exact e.relinks_modifyLink id hf

/-- Closing a link as itself does nothing if the link is not live. -/
lemma closeLink_cases (id : LinkId) : (e.closeLink id).1 = e ∨
    ∃ l, e.links.link? id = some l ∧ e.links.byTuple.get? l.key = some id ∧
      (e.closeLink id).1 =
        ({ e with links := e.links.drop l }.hangUp [l]).count (·.linksWereClosed 1) := by
  unfold closeLink
  cases hc : e.links.closeLink? id with
  | none => exact .inl rfl
  | some result =>
    obtain ⟨links, l⟩ := result
    obtain ⟨hl, hk, rfl⟩ := LinkTable.closeLink?_eq_some hc
    exact .inr ⟨l, hl, hk, rfl⟩

lemma relinks_closeLink (id : LinkId) : e.Relinks (e.closeLink id).1 := by
  unfold closeLink
  cases hc : e.links.closeLink? id with
  | none => exact .refl e
  | some result =>
    obtain ⟨links, l⟩ := result
    have h : e.Relinks { e with links } :=
      .of_request (r := .closeLink id) rfl (by simp [LinkTable.obey, hc]) rfl trivial rfl
    dsimp only
    exact (h.then_spares (spares_hangUp ..)).then_spares (spares_count ..)

lemma relinks_processReply (s : Segment) : e.Relinks (e.processReply w s) := by
  unfold processReply
  split
  · exact .of_spares (e.spares_sendReset w s)
  · rename_i l _
    have h := e.relinks_modifyLink l.id
      ((Link.inPlace_touch w.now).comp (Link.inPlace_observe .host s))
    exact h.then_spares (spares_write ..)

lemma relinks_processForward (s : Segment) : e.Relinks (e.processForward w s) := by
  unfold processForward
  split
  · exact .of_spares (e.spares_sendReset w s)
  · rename_i l _
    have h := e.relinks_modifyLink l.id
      ((Link.inPlace_touch w.now).comp (Link.inPlace_observe .guest s))
    dsimp only
    split
    · split
      · exact h.trans (relinks_modifyLink _ _ (Link.inPlace_pending fun _ => none))
      · exact h
    · exact h.then_spares (spares_write ..)

lemma relinks_dropFinished (key : LinkKey) : e.Relinks (e.dropFinished key) := by
  exact dropFinished_induction (P := e.Relinks) e key (.refl e) fun l _ => e.relinks_closeLink l.id

lemma relinks_repeatSyn (l : Link) (s : Segment) : e.Relinks (e.repeatSyn w l s) := by
  unfold repeatSyn
  have h := e.relinks_modifyLink l.id (Link.inPlace_observe .guest s)
  dsimp only
  split
  · exact h.then_spares (spares_write ..)
  · exact h.trans (relinks_modifyLink _ _ (Link.inPlace_pending _))

/-- What comes of a request of the guest once the finished link of its 4-tuple has given way. -/
inductive RequestOutcome (d : Engine) (w : Surroundings) (s : Segment) : Engine → Prop
  | repeated {id : LinkId} {l : Link}
      (hkey : d.links.byTuple.get? (s.source, s.destination) = some id)
      (hl : (d.links.modify id (·.touch w.now)).link? id = some l) :
      RequestOutcome d w s ((d.modifyLink id (·.touch w.now)).repeatSyn w l s)
  | unknown {id : LinkId} (hkey : d.links.byTuple.get? (s.source, s.destination) = some id) :
      RequestOutcome d w s (d.modifyLink id (·.touch w.now))
  | refused {ports : PortPool} (hallocate : d.links.allocate (s.source, s.destination) w.reserved
      w.now = ({ d.links with ports }, .error .portsExhausted)) :
      RequestOutcome d w s
        ((({ d with links := { d.links with ports } } : Engine).emit .portQuery).sendReset w s)
  | opened {port : UInt16} {ports : PortPool}
      (hkey : d.links.byTuple.get? (s.source, s.destination) = none)
      (hallocate : d.links.allocate (s.source, s.destination) w.reserved w.now =
        (({ d.links with ports } : LinkTable).create (s.source, s.destination) port w.now,
          .ok (.created d.links.nextId))) :
      RequestOutcome d w s
        ((({ d with
            links := ({ d.links with ports } : LinkTable).create (s.source, s.destination) port
              w.now } : Engine).emit .portQuery).openLink
          (({ d.links with ports } : LinkTable).fresh (s.source, s.destination) port w.now) s)

lemma requestOutcome_processSyn (s : Segment) :
    (e.dropFinished (s.source, s.destination)).RequestOutcome w s (e.processSyn w s) := by
  unfold processSyn
  generalize e.dropFinished (s.source, s.destination) = d
  dsimp only
  rcases d.links.allocate_cases (s.source, s.destination) w.reserved w.now with
    ⟨id, hkey, ha⟩ | ⟨ports, -, -, ha⟩ | ⟨port, ports, hkey, -, ha⟩
  · rw [ha]
    dsimp only
    split
    · rename_i l hl
      exact .repeated hkey hl
    · exact .unknown hkey
  · rw [ha]
    exact .refused ha
  · have hlink := LinkTable.link?_create (t := { d.links with ports }) (s.source, s.destination)
      port w.now d.links.nextId
    rw [if_pos rfl] at hlink
    rw [ha]
    simp only [hlink]
    exact .opened hkey ha

/-- A request of the guest either creates a link and dials for it, or changes the link of
its 4-tuple in its place. -/
lemma relinks_processSyn (s : Segment) (hs : s.destination.ip ≠ e.config.gateway) :
    e.Relinks (e.processSyn w s) := by
  have hdrop := e.relinks_dropFinished (s.source, s.destination)
  have ho := e.requestOutcome_processSyn w s
  generalize e.dropFinished (s.source, s.destination) = d, e.processSyn w s = e' at hdrop ho ⊢
  refine hdrop.trans ?_
  rw [← hdrop.config] at hs
  cases ho with
  | @repeated id =>
    have h := d.relinks_modifyLink id (Link.inPlace_touch w.now)
    exact h.trans (relinks_repeatSyn ..)
  | @unknown id => exact d.relinks_modifyLink id (Link.inPlace_touch w.now)
  | @refused ports ha =>
    have h : d.Relinks { d with links := { d.links with ports } } :=
      .of_request (r := .allocate (s.source, s.destination) w.reserved w.now) rfl
        (by rw [LinkTable.obey, ha]) rfl hs (by rw [LinkTable.creates, ha])
    exact (h.then_spares (spares_emit _ rfl)).then_spares (spares_sendReset ..)
  | @opened port ports _ ha =>
    have hf : Link.InPlace fun m : Link =>
        { m.observe .guest s with pending := some (d.translate m s) } :=
      ⟨fun _ => rfl, fun _ => rfl⟩
    refine ⟨rfl, [.allocate (s.source, s.destination) w.reserved w.now,
      .change d.links.nextId _ hf], ?_, ?_, ?_⟩
    · simpa [LinkRequest.Admissible] using hs
    · simp only [LinkTable.run, List.foldl_cons, List.foldl_nil, LinkTable.obey, ha]
      rfl
    · simp only [LinkTable.creations, LinkTable.creates, ha]
      rw [dials_openLink, dials_emit]
      rfl

lemma relinks_processTcp (s : Segment) : e.Relinks (e.processTcp w s) := by
  unfold processTcp
  split
  · split
    · exact e.relinks_processReply w s
    · exact .of_spares (e.spares_count _)
  · rename_i hs
    split
    · exact e.relinks_processSyn w s hs
    · exact e.relinks_processForward w s

lemma Dispatches.spares {w : Surroundings} {e e' : Engine} (h : Dispatches w e e') :
    e.Spares e' := by
  induction h with
  | offered => exact ⟨rfl, rfl, rfl⟩
  | sent e d =>
    have hflows : e.Spares { e with flows := (e.flows.send d w.now).1 } := ⟨rfl, rfl, rfl⟩
    exact hflows.trans (spares_absorb ..)
  | forwarded e => exact e.spares_emit rfl
  | dropped e | buffered e | reassembled e => exact e.spares_count _
  | trans _ _ ih ih' => exact ih.trans ih'

lemma relinks_input (bytes : Bytes) : e.Relinks (e.input w bytes) := by
  obtain ⟨f, ⟨s, heq⟩ | h⟩ := e.input_cases w bytes
  · rw [heq]
    exact (Relinks.of_spares (e.spares_count f)).trans (relinks_processTcp ..)
  · exact .of_spares ((e.spares_count f).trans h.spares)

lemma relinks_connected (id : LinkId) (socket : SocketId) :
    e.Relinks (e.connected w id socket) := by
  unfold connected
  split
  · exact .refl e
  · have h : e.Relinks { e with dialing := e.dialing.erase id } := .of_spares ⟨rfl, rfl, rfl⟩
    cases hl : e.links.link? id with
    | none =>
      simp only [hl]
      exact h.then_spares (spares_emit _ rfl)
    | some l =>
      by_cases hc : l.closed = true
      · simp only [hl, Link.attach?, hc, Option.bind_eq_bind, Option.bind_some, if_true,
          Option.map_none]
        exact h.then_spares (spares_emit _ rfl)
      · have hf : Link.InPlace fun m : Link => { m with socket := some socket, pending := none } :=
          ⟨fun _ => rfl, fun _ => rfl⟩
        have hr := h.trans (relinks_replace { e with dialing := e.dialing.erase id } hl hf)
        have hattach : l.attach? socket = some { l with socket := some socket } :=
          if_neg hc
        simp only [hl, hattach, Option.bind_eq_bind, Option.bind_some, Option.map_some]
        split
        · exact hr.then_spares (spares_write ..)
        · exact hr

lemma relinks_dialFailed (id : LinkId) : e.Relinks (e.dialFailed w id) := by
  unfold dialFailed
  split
  · exact .refl e
  · have h : e.Relinks { e with dialing := e.dialing.erase id } := .of_spares ⟨rfl, rfl, rfl⟩
    dsimp only
    split
    · exact h
    · have hr := (h.trans (relinks_modifyLink _ id (Link.inPlace_pending fun _ => none))).trans
        (relinks_closeLink _ id)
      split
      · exact hr.then_spares (spares_sendReset ..)
      · exact hr

lemma relinks_finalize {l : Link} (hl : e.links.link? l.id = some l) (now : Nat) :
    e.Relinks (e.finalize now l).1 := by
  have hf : Link.InPlace fun m : Link => (m.beginFinal now).detach := ⟨fun _ => rfl, fun _ => rfl⟩
  exact (e.relinks_replace hl hf).then_spares (spares_hangUp _ [l])

/-- A sweep finalizes the link that it visits, which has the identity it is known by. -/
lemma relinks_sweepLink (hlab : e.links.Labelled) (now : Nat) (id : LinkId) :
    e.Relinks (e.sweepLink now id).1 := by
  refine sweepLink_induction (P := e.Relinks) e id (.refl e) (fun l hl _ => ?_)
    fun _ h => h.trans (relinks_closeLink _ id)
  obtain rfl := hlab id l hl
  exact e.relinks_finalize hl now

lemma relinks_sweepLinks (hlab : e.links.Labelled) (now : Nat) (order : List LinkId) :
    e.Relinks (e.sweepLinks now order).1 := by
  exact sweepLinks_induction (P := e.Relinks) e order (.refl e)
    fun d id h => h.trans (d.relinks_sweepLink (h.labelled hlab) now id)

lemma relinks_sweep (hlab : e.links.Labelled) (now : Nat) :
    e.Relinks (e.sweep w now).1 := by
  unfold sweep sweepIn
  have h := e.relinks_sweepLinks hlab now e.links.live
  generalize e.sweepLinks now e.links.live = swept at h ⊢
  obtain ⟨d, n⟩ := swept
  dsimp only
  generalize FlowTable.evict _ now _ = evicted
  obtain ⟨flows, m, effects⟩ := evicted
  refine h.then_spares (Spares.trans ?_ (spares_absorb ..))
  exact ⟨rfl, rfl, rfl⟩

lemma relinks_start : e.Relinks (e.start w).1 := by
  unfold start
  split
  · exact .refl e
  · obtain ⟨answers, result⟩ := Routing.apply w.routing e.config.routes e.config.dns
    have h := e.spares_noteRouting answers
    cases result with
    | ok => exact .of_spares (h.trans ⟨rfl, rfl, rfl⟩)
    | error fault => exact .of_spares h

lemma relinks_stop : e.Relinks (e.stop w).1 := by
  unfold stop
  split
  · exact .refl e
  · have h : e.Relinks { e with links := e.links.clear.1, running := false } :=
      .of_request (r := .clear) rfl rfl rfl trivial rfl
    have hcleared := h.then_spares (spares_hangUp _ e.links.clear.2)
    have hcounted := hcleared.then_spares
      (spares_count _ (·.linksWereClosed e.links.clear.2.length))
    refine hcounted.then_spares (Spares.trans ?_ (spares_noteRouting ..))
    refine Spares.trans ?_ (spares_absorb ..)
    exact ⟨rfl, rfl, rfl⟩

lemma relinks_step (hlab : e.links.Labelled) (event : Event) :
    e.Relinks (e.step w event) := by
  cases event with
  | input bytes => exact e.relinks_input w bytes
  | connected id socket => exact e.relinks_connected w id socket
  | dialFailed id => exact e.relinks_dialFailed w id
  | flow event =>
    simp only [step, flowEvent]
    obtain ⟨flows, effects⟩ := e.flows.step w.now event
    have h : e.Spares { e with flows } := ⟨rfl, rfl, rfl⟩
    exact .of_spares (h.trans (spares_absorb ..))
  | carried id sent received =>
    exact e.relinks_modifyLink id (f := fun l => (l.carry sent received).touch w.now)
      ⟨fun _ => rfl, fun _ => rfl⟩
  | sweep => exact e.relinks_sweep w hlab w.now
  | start => exact e.relinks_start w
  | stop => exact e.relinks_stop w

lemma relinks_run (hlab : e.links.Labelled) (events : List (Surroundings × Event)) :
    e.Relinks (e.run events) := by
  induction events generalizing e with
  | nil => exact .refl e
  | cons x rest ih =>
    have h := e.relinks_step x.1 hlab x.2
    exact h.trans (ih _ (h.labelled hlab))

end Steps

/-- What holds of the links of an engine at any time. -/
structure Sound (e : Engine) : Prop where
  links : e.links.Paired
  gateway : e.links.gateway = e.config.gateway
  avoids : e.links.Avoids e.config.gateway

lemma build_eq_ok {c : Config} {runtime : Bool} {e : Engine} (h : build c runtime = .ok e) :
    c.flaw? = none ∧ e = ofConfig c := by
  unfold build at h
  split at h
  · cases h
  · cases h
  · rename_i hflaw
    exact ⟨hflaw, (Except.ok.inj h).symm⟩

lemma Sound.of_relinks {e e' : Engine} (h : e.Sound) (hr : e.Relinks e') : e'.Sound := by
  obtain ⟨hconfig, requests, hadm, hlinks, -⟩ := hr
  constructor
  · rw [hlinks]
    exact h.links.run hadm
  · rw [hlinks, hconfig, (LinkTable.run_range _ requests).1]
    exact h.gateway
  · rw [hlinks, hconfig]
    exact h.avoids.run hadm

lemma sound_ofConfig (c : Config) : (ofConfig c).Sound where
  links := .ofRange c.gateway c.firstPort c.lastPort
  gateway := rfl
  avoids := by intro id l h; cases h

theorem sound_run {c : Config} {runtime : Bool} {e : Engine} (hbuild : build c runtime = .ok e)
    (events : List (Surroundings × Event)) :
    (e.run events).Sound ∧ (e.run events).config = c := by
  obtain ⟨-, rfl⟩ := build_eq_ok hbuild
  have h := sound_ofConfig c
  have hr := (ofConfig c).relinks_run h.links.labelled events
  exact ⟨h.of_relinks hr, hr.config⟩

end Engine

end GuestNat
