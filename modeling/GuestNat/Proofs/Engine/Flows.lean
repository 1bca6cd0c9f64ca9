import GuestNat.Proofs.Engine.Links
import GuestNat.Proofs.Engine.LinksOnly
import GuestNat.Proofs.Flow.History

/-!
# What an engine does to its flows

Datagrams of the guest are sent, what happens to a flow happens to it, a sweep evicts and a stop
clears. Nothing else concerns the flows, so over a run they go through a history (`reflows_run`)
and are always sound (`flows_sound_run`).
-/
namespace GuestNat

lemma FlowTable.after_append (t : FlowTable) (xs ys : List (Nat × FlowAction)) :
    t.after (xs ++ ys) = (t.after xs).after ys := by
  induction xs generalizing t with
  | nil => rfl
  | cons x rest ih => exact ih _

namespace Engine

/-- The flows have gone through a history. -/
def Reflows (e e' : Engine) : Prop :=
  ∃ history : List (Nat × FlowAction), e'.flows = e.flows.after history

namespace Reflows

variable {e e' e'' : Engine}

lemma of_flows_eq (h : e'.flows = e.flows) : e.Reflows e' := ⟨[], h⟩

/-- What concerns only the links is no part of the history. -/
lemma of_linksOnly (h : e.LinksOnly e') : e.Reflows e' := of_flows_eq h.flows

lemma of_action (now : Nat) (a : FlowAction) (h : e'.flows = (e.flows.act now a).1) :
    e.Reflows e' := ⟨[(now, a)], h⟩

lemma trans (h : e.Reflows e') (h' : e'.Reflows e'') : e.Reflows e'' := by
  obtain ⟨xs, hxs⟩ := h
  obtain ⟨ys, hys⟩ := h'
  exact ⟨xs ++ ys, by rw [hys, hxs, FlowTable.after_append]⟩

end Reflows

section Operations

variable (e : Engine) (w : Surroundings)

/-- What the closing of flows asks for is passed on as it is, for nothing is answered. -/
lemma absorb_closeEffects (fs : List Flow) :
    e.absorb w (fs.flatMap Flow.closeEffects) =
      { e with outbox := e.outbox ++ (fs.flatMap Flow.closeEffects).map .flow } := by
  have hquiet : ∀ x ∈ fs.flatMap Flow.closeEffects, ∀ id d, x ≠ .replied id d := by
    rintro x hx id d rfl
    obtain ⟨f, -, hf⟩ := List.mem_flatMap.mp hx
    have hnone := List.filterMap_eq_nil_iff.mp (f.calls_closeEffects id).2 _ hf
    simp [FlowEffect.replied?] at hnone
  generalize fs.flatMap Flow.closeEffects = effects at hquiet
  unfold absorb
  induction effects generalizing e with
  | nil => simp
  | cons x rest ih =>
    rw [List.forall_mem_cons] at hquiet
    rw [List.foldl_cons, ih _ hquiet.2]
    cases x with
    | replied id d => exact absurd rfl (hquiet.1 id d)
    | _ => simp [emit]

/-- Of the parts of what a datagram does, those that send are part of the history. -/
lemma Dispatches.reflows {w : Surroundings} {e e' : Engine} (h : Dispatches w e e') :
    e.Reflows e' := by
  induction h with
  | offered => exact .of_flows_eq rfl
  | sent e d => exact .of_action w.now (.send d) (linkWork_absorb ..).linksOnly.flows
  | forwarded e => exact .of_linksOnly (e.linkWork_emit rfl).linksOnly
  | dropped e | buffered e | reassembled e => exact .of_linksOnly (e.linksOnly_count _)
  | trans _ _ ih ih' => exact ih.trans ih'

lemma reflows_input (bytes : Bytes) : e.Reflows (e.input w bytes) := by
  obtain ⟨f, ⟨s, heq⟩ | h⟩ := e.input_cases w bytes
  · rw [heq]
    exact .of_linksOnly ((e.linksOnly_count f).trans (linkWork_processTcp ..).linksOnly)
  · exact (Reflows.of_linksOnly (e.linksOnly_count f)).trans h.reflows

lemma flows_sweepIn (order : List LinkId) (now : Nat) :
    (sweepIn order e w now).1.flows = (e.flows.evict now e.config.udpInactivity).1 := by
  have hlinks := (e.linkWork_sweepLinks now order).linksOnly
  rw [← hlinks.flows, ← hlinks.config]
  exact (linkWork_absorb ..).linksOnly.flows

lemma reflows_start : e.Reflows (e.start w).1 := by
  refine .of_flows_eq ?_
  unfold start
  split
  · rfl
  · dsimp only
    split <;> rfl

lemma reflows_stop : e.Reflows (e.stop w).1 := by
  unfold stop
  cases e.running with
  | false => exact .of_flows_eq rfl
  | true => exact .of_action w.now .clear (linkWork_absorb ..).linksOnly.flows

theorem reflows_step (event : Event) : e.Reflows (e.step w event) := by
  cases event with
  | input bytes => exact e.reflows_input w bytes
  | connected id socket => exact .of_linksOnly (e.linkWork_connected w id socket).linksOnly
  | dialFailed id => exact .of_linksOnly (e.linkWork_dialFailed w id).linksOnly
  | flow event =>
    exact .of_action w.now (.event event) (linkWork_absorb ..).linksOnly.flows
  | carried id sent received => exact .of_linksOnly (e.linkWork_modifyLink ..).linksOnly
  | sweep =>
    exact .of_action w.now (.evict e.config.udpInactivity) (e.flows_sweepIn w ..)
  | start => exact e.reflows_start w
  | stop => exact e.reflows_stop w

/-- Over a run the flows go through a history. -/
theorem reflows_run (events : List (Surroundings × Event)) : e.Reflows (e.run events) := by
  induction events generalizing e with
  | nil => exact .of_flows_eq rfl
  | cons x rest ih => exact (e.reflows_step x.1 x.2).trans (ih _)

end Operations

/-- The flows of an engine are sound in every run. -/
theorem flows_sound_run {c : Config} {runtime : Bool} {e : Engine}
    (hbuild : build c runtime = .ok e) (events : List (Surroundings × Event)) :
    (e.run events).flows.Sound := by
  obtain ⟨-, rfl⟩ := build_eq_ok hbuild
  obtain ⟨history, hflows⟩ := (ofConfig c).reflows_run events
  rw [hflows]
  exact FlowTable.Sound.empty.after history

end Engine

end GuestNat
