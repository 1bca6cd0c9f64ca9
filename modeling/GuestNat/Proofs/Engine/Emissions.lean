import GuestNat.Proofs.Engine.Events

/-!
# Why a segment is written, and why a connection is asked for

Each segment that an event makes the engine write, and each connection that it asks for, has its
reason in the event and in the links as they were. `Emits` lists the reasons, each with the whole
segment, and no event adds anything without one (`emits_step`).
-/
namespace GuestNat

/-- Effects that neither write a segment nor ask for the connection of a link. -/
inductive Effect.Aside : Effect → Prop
  | reply (d : Datagram) : Aside (.frame .reply d.toFrame.toBytes)
  | icmp (m : IcmpMessage) : Aside (.icmp m)
  | portQuery : Aside .portQuery
  | hangUp (socket : SocketId) : Aside (.hangUp socket)
  | routed (answer : RoutingAnswer) : Aside (.routed answer)
  | flow (effect : FlowEffect) : Aside (.flow effect)

namespace Engine

/-- Why an event adds an effect. -/
inductive Emits (e : Engine) : Event → Effect → Prop
  | aside {event : Event} {x : Effect} (hx : x.Aside) : Emits e event x
  /-- A segment of the host side is passed on to the guest. -/
  | answered {bytes : Bytes} {l : Link} {r : Segment} (hr : e.Reads bytes r)
      (hsource : r.source = e.config.listener) (hdestination : r.destination = l.standIn)
      (hl : e.links.link? l.id = some l) (hopen : l.closed = false) :
      Emits e (.input bytes) (.frame .translated (untranslate l r).toBytes)
  /-- A segment of the guest is passed on to the host side. -/
  | forwarded {bytes : Bytes} {l : Link} {s : Segment} (hs : e.Hears bytes l s)
      (hl : e.links.link? l.id = some l)
      (hready : if s.flags.opens then l.socket.isSome = true else l.pending = none) :
      Emits e (.input bytes) (.frame .translated (e.translate l s).toBytes)
  /-- A segment is answered that no link takes. -/
  | refused {bytes : Bytes} {s : Segment} (hs : e.Reads bytes s) (hreset : s.flags.rst = false)
      (hspoken : s.destination.ip = e.config.gateway → s.source = e.config.listener)
      (huntaken : ∀ l, e.links.findTuple (s.source, s.destination) = some l → l.Finished) :
      Emits e (.input bytes) (.frame .reset s.reset.toBytes)
  /-- A request opens a link. -/
  | dialed {bytes : Bytes} {s : Segment} (hs : e.Reads bytes s)
      (hopens : s.flags.opens = true)
      (huntaken : ∀ l, e.links.findTuple (s.source, s.destination) = some l → l.Finished) :
      Emits e (.input bytes) (.dial e.links.nextId s.destination)
  /-- The connection of a link is open, and the request that waits goes out. -/
  | released {l : Link} {socket : SocketId} {syn : Segment} (hl : e.links.link? l.id = some l)
      (hopen : l.closed = false) (hsyn : l.pending = some syn) :
      Emits e (.connected l.id socket) (.frame .translated syn.toBytes)
  /-- The connection of a link could not be opened, and the request that waits is answered. -/
  | failed {l : Link} {syn : Segment} (hl : e.links.link? l.id = some l)
      (hopen : l.closed = false) (hsyn : l.pending = some syn) :
      Emits e (.dialFailed l.id) (.frame .reset
        ({ syn with source := l.source, destination := l.destination } : Segment).reset.toBytes)

/-- All that was added to the outbox has a property. -/
def Adds (P : Effect → Prop) (e e' : Engine) : Prop :=
  ∃ added, e'.outbox = e.outbox ++ added ∧ ∀ x ∈ added, P x

namespace Adds

variable {P : Effect → Prop} {e e' e'' : Engine}

lemma of_eq (h : e'.outbox = e.outbox) : Adds P e e' :=
  ⟨[], h.trans (List.append_nil _).symm, List.forall_mem_nil _⟩

lemma refl (e : Engine) : Adds P e e := of_eq rfl

lemma trans (h : Adds P e e') (h' : Adds P e' e'') : Adds P e e'' := by
  obtain ⟨xs, hout, hxs⟩ := h
  obtain ⟨ys, hout', hys⟩ := h'
  refine ⟨xs ++ ys, ?_, fun x hx => (List.mem_append.mp hx).elim (hxs x) (hys x)⟩
  rw [hout', hout, List.append_assoc]

end Adds

section Views

variable {P : Effect → Prop} (e : Engine) (w : Surroundings)

lemma adds_emit {x : Effect} (hx : P x) : Adds P e (e.emit x) :=
  ⟨[x], rfl, by simpa using hx⟩

lemma adds_write {cause : FrameCause} {f : Frame} (hf : P (.frame cause f.toBytes)) :
    Adds P e (e.write w cause f) := by
  unfold write
  split
  · exact e.adds_emit hf
  · exact .of_eq rfl

lemma adds_sendReset {s : Segment} (hs : s.flags.rst = false → P (.frame .reset s.reset.toBytes)) :
    Adds P e (e.sendReset w s) := by
  unfold sendReset
  split
  · exact .refl e
  · rename_i hreset
    have hwrite : Adds P e (e.write w .reset s.reset.toFrame) :=
      e.adds_write w (hs (Bool.eq_false_iff.mpr hreset))
    dsimp only
    split
    · exact hwrite.trans (.of_eq rfl)
    · exact hwrite

variable (haside : ∀ x : Effect, x.Aside → P x)
include haside

lemma adds_hangUp (ls : List Link) : Adds P e (e.hangUp ls) := by
  refine ⟨_, rfl, ?_⟩
  rw [List.forall_mem_map]
  exact fun socket _ => haside _ (.hangUp socket)

lemma adds_noteRouting (answers : List RoutingAnswer) : Adds P e (e.noteRouting answers) := by
  refine ⟨_, rfl, ?_⟩
  rw [List.forall_mem_map]
  exact fun answer _ => haside _ (.routed answer)

lemma adds_absorb (effects : List FlowEffect) : Adds P e (e.absorb w effects) :=
  absorb_induction (P := Adds P e) e effects (.refl e)
    (fun d m h => h.trans (d.adds_write w (haside _ (.reply m))))
    fun d x h => h.trans (d.adds_emit (haside _ (.flow x)))

lemma adds_closeLink (id : LinkId) : Adds P e (e.closeLink id).1 := by
  unfold closeLink
  split
  · exact adds_hangUp _ haside _
  · exact .refl e

lemma adds_dropFinished (key : LinkKey) : Adds P e (e.dropFinished key) := by
  exact dropFinished_induction (P := Adds P e) e key (.refl e)
    fun l _ => e.adds_closeLink haside l.id

lemma adds_sweepLink (now : Nat) (id : LinkId) : Adds P e (e.sweepLink now id).1 := by
  exact sweepLink_induction (P := Adds P e) e id (.refl e) (fun l _ _ => adds_hangUp _ haside [l])
    fun _ h => h.trans (adds_closeLink _ haside id)

lemma adds_sweep : Adds P e (e.sweep w w.now).1 := by
  have hswept : Adds P e (e.sweepLinks w.now e.links.live).1 :=
    sweepLinks_induction (P := Adds P e) e _ (.refl e)
      fun d id h => h.trans (d.adds_sweepLink haside w.now id)
  exact hswept.trans (adds_absorb _ w haside _)

lemma adds_start : Adds P e (e.start w).1 := by
  unfold start
  split
  · exact .refl e
  · dsimp only
    split
    · exact e.adds_noteRouting haside _
    · exact e.adds_noteRouting haside _

lemma adds_stop : Adds P e (e.stop w).1 := by
  unfold stop
  split
  · exact .refl e
  · have hclosed : Adds P e ({ e with running := false, links := e.links.clear.1 }.hangUp
        e.links.clear.2) := adds_hangUp _ haside _
    refine .trans ?_ (adds_noteRouting _ haside _)
    refine .trans ?_ (adds_absorb _ w haside _)
    exact hclosed.trans (.of_eq rfl)

omit e w in
lemma Dispatches.adds {w : Surroundings} {e e' : Engine} (h : Dispatches w e e') :
    Adds P e e' := by
  induction h with
  | sent e d => exact adds_absorb _ w haside _
  | forwarded e m => exact e.adds_emit (haside _ (.icmp m))
  | trans _ _ ih ih' => exact ih.trans ih'
  | _ => exact .of_eq rfl

end Views

section Steps

variable {e : Engine} {w : Surroundings} {bytes : Bytes} {s : Segment} (f : Counters → Counters)

lemma emits_processReply (h : e.Coherent) (hs : e.Reads bytes s)
    (hsource : s.source = e.config.listener) (hip : s.destination.ip = e.config.gateway) :
    Adds (e.Emits (.input bytes)) e ((e.count f).processReply w s) := by
  unfold processReply
  rw [links_count]
  split
  · refine adds_sendReset _ w fun hreset => .refused hs hreset (fun _ => hsource) fun l hl => ?_
    obtain ⟨hlink, -, hkey⟩ := h.of_findTuple hl
    have hdestination : l.destination = s.destination := congrArg Prod.snd hkey
    rw [← hdestination] at hip
    exact absurd hip (h.avoids l.id l hlink)
  · rename_i l hl
    obtain ⟨hlink, hopen, hport⟩ := h.of_findPort hl
    exact adds_write _ w (.answered hs hsource (h.eq_standIn hlink hip hport.symm) hlink hopen)

lemma emits_processForward (h : e.Coherent) (hs : e.Reads bytes s)
    (hopens : s.flags.opens = false) (hip : s.destination.ip ≠ e.config.gateway) :
    Adds (e.Emits (.input bytes)) e ((e.count f).processForward w s) := by
  unfold processForward
  rw [links_count]
  split
  · rename_i hnone
    refine adds_sendReset _ w fun hreset => .refused hs hreset (fun hg => absurd hg hip) ?_
    intro l hl
    rw [hnone] at hl
    cases hl
  · rename_i l hl
    obtain ⟨hlink, hopen, hkey⟩ := h.of_findTuple hl
    dsimp only
    split_ifs with hpending hreset
    · exact .of_eq rfl
    · exact .of_eq rfl
    · have hready : if s.flags.opens then l.socket.isSome = true else l.pending = none := by
        rw [if_neg (by simp [hopens])]
        simpa using hpending
      exact adds_write _ w (.forwarded ⟨hs, hkey.symm, hopen⟩ hlink hready)

lemma emits_processSyn (h : e.Coherent) (hs : e.Reads bytes s)
    (hopens : s.flags.opens = true) (hip : s.destination.ip ≠ e.config.gateway) :
    Adds (e.Emits (.input bytes)) e ((e.count f).processSyn w s) := by
  by_cases hstays : ∃ l, e.links.findTuple (s.source, s.destination) = some l ∧ ¬l.Finished
  · obtain ⟨l, hl, hstays⟩ := hstays
    obtain ⟨hlink, hopen, hkey⟩ := h.of_findTuple hl
    have hhears : e.Hears bytes l s := ⟨hs, hkey.symm, hopen⟩
    rw [processSyn_of_stays f h hlink hhears hstays]
    unfold repeatSyn
    dsimp only
    split
    · rename_i hsocket
      have hready : if s.flags.opens then l.socket.isSome = true else l.pending = none := by
        rw [if_pos hopens]
        exact hsocket
      have hforwards : e.Emits (.input bytes) (.frame .translated (e.translate l s).toBytes) :=
        .forwarded hhears hlink hready
      exact adds_write _ w hforwards
    · exact .of_eq rfl
  -- Otherwise the 4-tuple is free by the time that a link is asked for.
  simp only [not_exists, not_and, not_not] at hstays
  have hdrop : Adds (e.Emits (.input bytes)) e
      ((e.count f).dropFinished (s.source, s.destination)) :=
    adds_dropFinished _ (fun x hx => .aside hx) _
  have hfree := (givesWay_dropFinished f h hstays).free
  have hnext := (e.count f).nextId_dropFinished (s.source, s.destination)
  have ho := (e.count f).requestOutcome_processSyn w s
  generalize (e.count f).dropFinished (s.source, s.destination) = d,
    (e.count f).processSyn w s = e' at hdrop hfree hnext ho ⊢
  refine hdrop.trans ?_
  cases ho with
  | repeated hkey | unknown hkey =>
    rw [hfree] at hkey
    cases hkey
  | @refused ports =>
    have hquery : Adds (e.Emits (.input bytes)) d
        ({ d with links := { d.links with ports } }.emit .portQuery) :=
      adds_emit _ (.aside .portQuery)
    exact hquery.trans (adds_sendReset _ w fun hreset =>
      .refused hs hreset (fun hg => absurd hg hip) hstays)
  | opened =>
    have hdial : e.Emits (.input bytes) (.dial d.links.nextId s.destination) := by
      rw [hnext]
      exact .dialed hs hopens hstays
    refine ⟨[.portQuery, .dial d.links.nextId s.destination], List.append_assoc .., ?_⟩
    simpa using ⟨.aside .portQuery, hdial⟩

lemma emits_input (h : e.Coherent) : Adds (e.Emits (.input bytes)) e (e.input w bytes) := by
  by_cases hreads : ∃ s, e.Reads bytes s
  · obtain ⟨s, hs⟩ := hreads
    obtain ⟨f, heq⟩ := input_of_reads hs w
    rw [heq]
    unfold processTcp
    rw [config_count]
    split_ifs with hip hsource hopens
    · exact emits_processReply f h hs hsource hip
    · exact .of_eq rfl
    · exact emits_processSyn f h hs hopens hip
    · exact emits_processForward f h hs (Bool.eq_false_iff.mpr hopens) hip
  · obtain ⟨f, hdispatches⟩ := dispatches_of_not_reads (not_exists.mp hreads) w
    exact (Adds.of_eq rfl).trans (hdispatches.adds fun x hx => .aside hx)

lemma emits_connected (h : e.Coherent) (id : LinkId) (socket : SocketId) :
    Adds (e.Emits (.connected id socket)) e (e.connected w id socket) := by
  by_cases hid : id ∈ e.dialing
  · obtain ⟨l, hl, -⟩ := h.known id hid
    obtain rfl := h.id_eq hl
    cases hclosed : l.closed with
    | true =>
      rw [connected_of_closed hid hl hclosed]
      exact ⟨[.hangUp socket], rfl, by simpa using .aside (.hangUp socket)⟩
    | false =>
      rw [connected_of_open hid hl hclosed]
      cases hsyn : l.pending with
      | none => exact .of_eq rfl
      | some syn =>
        rw [Option.elim_some]
        exact adds_write _ w (.released hl hclosed hsyn)
  · rw [connected_of_notMem hid]
    exact .refl e

lemma emits_dialFailed (h : e.Coherent) (id : LinkId) :
    Adds (e.Emits (.dialFailed id)) e (e.dialFailed w id) := by
  by_cases hid : id ∈ e.dialing
  · obtain ⟨l, hl, -⟩ := h.known id hid
    obtain rfl := h.id_eq hl
    have hgiven : Adds (e.Emits (.dialFailed l.id)) e (e.giveUp l) :=
      adds_closeLink _ (fun x hx => .aside hx) l.id
    rw [dialFailed_eq hid hl]
    cases hsyn : l.pending with
    | none => exact hgiven
    | some syn =>
      have hopen : l.closed = false := by
        cases hclosed : l.closed with
        | false => rfl
        | true => simp [((h.orderly l.id l hl).closed hclosed).1] at hsyn
      rw [Option.elim_some]
      exact hgiven.trans (adds_sendReset _ w fun _ => .failed hl hopen hsyn)
  · rw [dialFailed_of_notMem hid]
    exact .refl e

/-- Nothing is added to the outbox without a reason. -/
theorem emits_step (h : e.Coherent) (w : Surroundings) (event : Event) :
    Adds (e.Emits event) e (e.step w event) := by
  have haside : ∀ x : Effect, x.Aside → e.Emits event x := fun x hx => .aside hx
  cases event with
  | input bytes => exact emits_input h
  | connected id socket => exact emits_connected h id socket
  | dialFailed id => exact emits_dialFailed h id
  | flow event => exact adds_absorb _ w haside _
  | carried id sent received => exact .of_eq rfl
  | sweep => exact e.adds_sweep w haside
  | start => exact e.adds_start w haside
  | stop => exact e.adds_stop w haside

end Steps

end Engine

end GuestNat
