import Mathlib.Data.List.Basic
import GuestNat.Proofs.Engine.Datagrams

/-!
# What concerns the links alone

Most of what an engine does concerns its links: segments, completions, the sweep of a link.
`LinkWork` lists the parts of this, so what each of them preserves is preserved by all: flows and
fragments stay as they are, the engine neither starts nor stops, and the routing service is not
called (`LinksOnly`); and what becomes of fragments is not counted (`groupCounters`). Datagrams,
which concern flows and fragments, at least do not start or stop it (`Steady`), so only a start and
a stop do (`steady_step`).
-/
namespace GuestNat

/-- The call to the routing service that an effect is. -/
def Effect.routed? : Effect → Option RoutingAnswer
  | .routed answer => some answer
  | _ => none

/-- How many groups of fragments became a datagram, and how many expired. -/
def Counters.ofGroups (c : Counters) : UInt64 × UInt64 := (c.datagramsReassembled, c.groupsExpired)

namespace Engine

/-- The calls to the routing service with their answers, oldest first. -/
def routed (e : Engine) : List RoutingAnswer := e.outbox.filterMap Effect.routed?

/-- The engine has neither started nor stopped, and has not called the routing service. -/
structure Steady (e e' : Engine) : Prop where
  config : e'.config = e.config
  running : e'.running = e.running
  routed : e'.routed = e.routed

/-- The engine has changed in nothing but its links, its counters and what it has asked for, and
has not called the routing service. -/
structure LinksOnly (e e' : Engine) : Prop extends e.Steady e' where
  reassembler : e'.reassembler = e.reassembler
  flows : e'.flows = e.flows

/-- What an engine has counted of groups of fragments. -/
def groupCounters (e : Engine) : UInt64 × UInt64 := e.counters.ofGroups

/-- Parts of what an engine does about its links, one behind the other. -/
inductive LinkWork : Engine → Engine → Prop
  | refl (e : Engine) : LinkWork e e
  | changed (e : Engine) (links : LinkTable) : LinkWork e { e with links }
  | dialed (e : Engine) (dialing : List LinkId) : LinkWork e { e with dialing }
  /-- Effects that are no calls to the routing service are appended. -/
  | asked (e : Engine) (effects : List Effect) (h : ∀ x ∈ effects, x.routed? = none) :
      LinkWork e { e with outbox := e.outbox ++ effects }
  /-- What becomes of fragments is not counted. -/
  | counted (e : Engine) (f : Counters → Counters) (h : ∀ c, (f c).ofGroups = c.ofGroups) :
      LinkWork e (e.count f)
  | trans {e d e' : Engine} (h : LinkWork e d) (h' : LinkWork d e') : LinkWork e e'

section

variable {e e' e'' : Engine}

lemma Steady.trans (h : e.Steady e') (h' : e'.Steady e'') : e.Steady e'' :=
  ⟨h'.config.trans h.config, h'.running.trans h.running, h'.routed.trans h.routed⟩

lemma LinksOnly.trans (h : e.LinksOnly e') (h' : e'.LinksOnly e'') : e.LinksOnly e'' where
  toSteady := h.toSteady.trans h'.toSteady
  reassembler := h'.reassembler.trans h.reassembler
  flows := h'.flows.trans h.flows

lemma LinkWork.linksOnly (h : e.LinkWork e') : e.LinksOnly e' := by
  induction h with
  | asked e effects h =>
    refine ⟨⟨rfl, rfl, ?_⟩, rfl, rfl⟩
    rw [routed, List.filterMap_append, List.filterMap_eq_nil_iff.mpr h, List.append_nil]
    rfl
  | trans _ _ ih ih' => exact ih.trans ih'
  | _ => exact ⟨⟨rfl, rfl, rfl⟩, rfl, rfl⟩

lemma LinkWork.groupCounters (h : e.LinkWork e') : e'.groupCounters = e.groupCounters := by
  induction h with
  | counted e f h => exact h e.counters
  | trans _ _ ih ih' => exact ih'.trans ih
  | _ => rfl

end

section Operations

variable (e : Engine) (w : Surroundings)

lemma linksOnly_count (f : Counters → Counters) : e.LinksOnly (e.count f) :=
  ⟨⟨rfl, rfl, rfl⟩, rfl, rfl⟩

lemma linkWork_modifyLink (id : LinkId) (f : Link → Link) : e.LinkWork (e.modifyLink id f) :=
  .changed e _

lemma linkWork_emit {x : Effect} (hx : x.routed? = none) : e.LinkWork (e.emit x) :=
  .asked e [x] (List.forall_mem_singleton.mpr hx)

lemma linkWork_hangUp (ls : List Link) : e.LinkWork (e.hangUp ls) := by
  refine .asked e _ fun x hx => ?_
  obtain ⟨socket, -, rfl⟩ := List.mem_map.mp hx
  rfl

lemma linkWork_write (cause : FrameCause) (f : Frame) : e.LinkWork (e.write w cause f) := by
  unfold write
  split
  · exact (e.linkWork_emit rfl).trans (.counted _ _ fun _ => rfl)
  · exact .counted e _ fun _ => rfl

lemma linkWork_sendReset (s : Segment) : e.LinkWork (e.sendReset w s) := by
  unfold sendReset
  split
  · exact .refl e
  · have h := e.linkWork_write w .reset s.reset.toFrame
    dsimp only
    split
    · exact h.trans (.counted _ _ fun _ => rfl)
    · exact h

lemma linkWork_absorb (effects : List FlowEffect) : e.LinkWork (e.absorb w effects) := by
  exact absorb_induction (P := e.LinkWork) e effects (.refl e)
    (fun _ _ h => h.trans (linkWork_write ..)) fun _ _ h => h.trans (linkWork_emit _ rfl)

lemma linkWork_closeLink (id : LinkId) : e.LinkWork (e.closeLink id).1 := by
  unfold closeLink
  split
  · rename_i links l _
    exact ((LinkWork.changed e links).trans (linkWork_hangUp _ [l])).trans
      (.counted _ (·.linksWereClosed 1) fun _ => rfl)
  · exact .refl e

lemma linkWork_dropFinished (key : LinkKey) : e.LinkWork (e.dropFinished key) := by
  exact dropFinished_induction (P := e.LinkWork) e key (.refl e)
    fun l _ => e.linkWork_closeLink l.id

lemma linkWork_openLink (l : Link) (s : Segment) : e.LinkWork (e.openLink l s) := by
  have hmodified := e.linkWork_modifyLink l.id
    fun l => { l.observe .guest s with pending := some (e.translate l s) }
  have hdialed := hmodified.trans (.dialed _ (e.dialing ++ [l.id]))
  exact (hdialed.trans (.counted _ .linkCreated fun _ => rfl)).trans (linkWork_emit _ rfl)

lemma linkWork_repeatSyn (l : Link) (s : Segment) : e.LinkWork (e.repeatSyn w l s) := by
  have h := e.linkWork_modifyLink l.id (·.observe .guest s)
  unfold repeatSyn
  dsimp only
  split
  · exact h.trans (linkWork_write ..)
  · exact h.trans (linkWork_modifyLink ..)

lemma linkWork_processSyn (s : Segment) : e.LinkWork (e.processSyn w s) := by
  unfold processSyn
  refine (e.linkWork_dropFinished (s.source, s.destination)).trans ?_
  generalize e.dropFinished (s.source, s.destination) = d
  dsimp only
  have h := LinkWork.changed d
  split
  · exact ((h _).trans (linkWork_emit _ rfl)).trans (linkWork_sendReset ..)
  · split
    · exact ((h _).trans (linkWork_emit _ rfl)).trans (linkWork_openLink ..)
    · exact h _
  · split
    · exact (h _).trans (linkWork_repeatSyn ..)
    · exact h _

lemma linkWork_processReply (s : Segment) : e.LinkWork (e.processReply w s) := by
  unfold processReply
  split
  · exact e.linkWork_sendReset w s
  · exact (e.linkWork_modifyLink ..).trans (linkWork_write ..)

lemma linkWork_processForward (s : Segment) : e.LinkWork (e.processForward w s) := by
  unfold processForward
  split
  · exact e.linkWork_sendReset w s
  · rename_i l _
    have h := e.linkWork_modifyLink l.id fun l => (l.observe .guest s).touch w.now
    dsimp only
    split
    · split
      · exact h.trans (linkWork_modifyLink ..)
      · exact h
    · exact h.trans (linkWork_write ..)

theorem linkWork_processTcp (s : Segment) : e.LinkWork (e.processTcp w s) := by
  unfold processTcp
  split
  · split
    · exact e.linkWork_processReply w s
    · exact .counted e _ fun _ => rfl
  · split
    · exact e.linkWork_processSyn w s
    · exact e.linkWork_processForward w s

theorem linkWork_connected (id : LinkId) (socket : SocketId) :
    e.LinkWork (e.connected w id socket) := by
  unfold connected
  split
  · exact .refl e
  · have h := LinkWork.dialed e (e.dialing.erase id)
    dsimp only
    split
    · exact h.trans (linkWork_emit _ rfl)
    · rename_i l _
      have hattached := h.trans (linkWork_modifyLink _ id fun _ => { l with pending := none })
      split
      · exact hattached.trans (linkWork_write ..)
      · exact hattached

theorem linkWork_dialFailed (id : LinkId) : e.LinkWork (e.dialFailed w id) := by
  unfold dialFailed
  split
  · exact .refl e
  · have h := LinkWork.dialed e (e.dialing.erase id)
    dsimp only
    split
    · exact h
    · have hclosed := (h.trans (linkWork_modifyLink _ id ({ · with pending := none }))).trans
        (linkWork_closeLink _ id)
      split
      · exact hclosed.trans (linkWork_sendReset ..)
      · exact hclosed

lemma linkWork_sweepLink (now : Nat) (id : LinkId) : e.LinkWork (e.sweepLink now id).1 := by
  refine sweepLink_induction (P := e.LinkWork) e id (.refl e) (fun l _ _ => ?_)
    fun _ h => h.trans (linkWork_closeLink _ id)
  exact (e.linkWork_modifyLink ..).trans (linkWork_hangUp _ [l])

theorem linkWork_sweepLinks (now : Nat) (order : List LinkId) :
    e.LinkWork (e.sweepLinks now order).1 := by
  exact sweepLinks_induction (P := e.LinkWork) e order (.refl e)
    fun _ _ h => h.trans (linkWork_sweepLink ..)

lemma linkWork_processIcmp (f : Frame) : e.LinkWork (e.processIcmp w f) := by
  unfold processIcmp
  split
  · exact .counted e _ fun _ => rfl
  · split
    · exact .counted e _ fun _ => rfl
    · dsimp only
      split
      · exact e.linkWork_emit rfl
      · exact (e.linkWork_emit rfl).trans (.counted _ _ fun _ => rfl)

lemma Dispatches.steady {w : Surroundings} {e e' : Engine} (h : Dispatches w e e') :
    e.Steady e' := by
  induction h with
  | offered => exact ⟨rfl, rfl, rfl⟩
  | sent e d =>
    have hflows : e.Steady { e with flows := (e.flows.send d w.now).1 } := ⟨rfl, rfl, rfl⟩
    exact hflows.trans (linkWork_absorb ..).linksOnly.toSteady
  | forwarded e => exact (e.linkWork_emit rfl).linksOnly.toSteady
  | dropped e | buffered e | reassembled e => exact (e.linksOnly_count _).toSteady
  | trans _ _ ih ih' => exact ih.trans ih'

lemma steady_input (bytes : Bytes) : e.Steady (e.input w bytes) := by
  obtain ⟨f, ⟨s, heq⟩ | h⟩ := e.input_cases w bytes
  · rw [heq]
    exact ((e.linksOnly_count f).trans (linkWork_processTcp ..).linksOnly).toSteady
  · exact (e.linksOnly_count f).toSteady.trans h.steady

lemma steady_flowEvent (event : FlowEvent) : e.Steady (e.flowEvent w event) := by
  unfold flowEvent
  have h : ∀ flows, e.Steady { e with flows } := fun _ => ⟨rfl, rfl, rfl⟩
  exact (h _).trans (linkWork_absorb ..).linksOnly.toSteady

lemma steady_sweepIn (order : List LinkId) (now : Nat) :
    e.Steady (sweepIn order e w now).1 := by
  refine (e.linkWork_sweepLinks now order).linksOnly.toSteady.trans ?_
  have h : ∀ (d : Engine) (r : Reassembler) (c : Counters) (fs : FlowTable),
      d.Steady { d with reassembler := r, counters := c, flows := fs } :=
    fun _ _ _ _ => ⟨rfl, rfl, rfl⟩
  exact (h ..).trans (linkWork_absorb ..).linksOnly.toSteady

/-- Nothing but a start or a stop starts or stops an engine, or calls the routing service. -/
theorem steady_step (event : Event) (hstart : event ≠ .start) (hstop : event ≠ .stop) :
    e.Steady (e.step w event) := by
  cases event with
  | input bytes => exact e.steady_input w bytes
  | connected id socket => exact (e.linkWork_connected w id socket).linksOnly.toSteady
  | dialFailed id => exact (e.linkWork_dialFailed w id).linksOnly.toSteady
  | flow event => exact e.steady_flowEvent w event
  | carried id sent received => exact (e.linkWork_modifyLink ..).linksOnly.toSteady
  | sweep => exact e.steady_sweepIn w e.links.live w.now
  | start => exact absurd rfl hstart
  | stop => exact absurd rfl hstop

end Operations

end Engine

end GuestNat
