import GuestNat.Proofs.Engine.Links
import GuestNat.Proofs.Engine.LinksOnly
import GuestNat.Proofs.Reassembly.History

/-!
# What an engine does to its reassembler

Frames of UDP and ICMP are offered to the reassembler, whole or not; a sweep sweeps it, and a stop
that ends anything clears it. Nothing else concerns it, so over a run it goes through a history
(`reassembler_run`), and the limits that it works with are those of the configuration
(`fragmentLimits_run`).
-/
namespace GuestNat.Engine

/-- What an event is for the reassembler. -/
def fragmentEvents (e : Engine) (w : Surroundings) : Event → FragmentHistory
  | .input bytes =>
    match Frame.ofBytes? e.config.verify bytes with
    | some f => if f.protocol = .udp ∨ f.protocol = .icmp then [(w.now, .offer f)] else []
    | none => []
  | .sweep => [(w.now, .sweep)]
  | .stop => if e.running then [(w.now, .clear)] else []
  | _ => []

section Views

variable (e : Engine) (w : Surroundings)

lemma reassembler_processUdp (f : Frame) : (e.processUdp w f).reassembler = e.reassembler := by
  unfold processUdp
  split
  · rfl
  · dsimp only
    split <;> exact (linkWork_absorb ..).linksOnly.reassembler

lemma reassembler_processDatagram (f : Frame) :
    (e.processDatagram w f).reassembler = (e.reassembler.offer f w.now).1 := by
  have hdeliver : ∀ (d : Engine) (g : Frame),
      (if g.protocol = .udp then d.processUdp w g else d.processIcmp w g).reassembler =
        d.reassembler := by
    intro d g
    split
    · exact d.reassembler_processUdp w g
    · exact (d.linkWork_processIcmp w g).linksOnly.reassembler
  unfold processDatagram
  dsimp only
  split
  · exact hdeliver _ f
  · rfl
  · exact hdeliver ..
  · rfl

/-- A frame of UDP or ICMP is counted and offered, and nothing else that comes in concerns
fragments. -/
lemma input_fragments_cases (bytes : Bytes) :
    (∃ d f, e.LinkWork d ∧ e.input w bytes = d.processDatagram w f ∧
      e.fragmentEvents w (.input bytes) = [(w.now, .offer f)]) ∨
    e.LinkWork (e.input w bytes) ∧ e.fragmentEvents w (.input bytes) = [] := by
  cases hf : Frame.ofBytes? e.config.verify bytes with
  | none =>
    simp only [input, fragmentEvents, hf]
    exact .inr ⟨.counted e _ fun _ => rfl, trivial⟩
  | some f =>
    have hread := LinkWork.counted e (·.record .inbound f.protocol bytes.length) fun _ => rfl
    simp only [input, fragmentEvents, hf, processFrame]
    generalize e.count _ = d at hread ⊢
    split
    · rename_i hprotocol
      simp only [hprotocol, reduceCtorEq, or_self, if_false]
      refine .inr ⟨?_, trivial⟩
      split
      · exact hread.trans (linkWork_processTcp ..)
      · exact hread.trans (.counted _ _ fun _ => rfl)
    · rename_i hprotocol
      exact .inl ⟨d, f, hread, rfl, if_pos (.inl hprotocol)⟩
    · rename_i hprotocol
      exact .inl ⟨d, f, hread, rfl, if_pos (.inr hprotocol)⟩
    · rename_i hprotocol
      simp only [hprotocol, reduceCtorEq, or_self, if_false]
      exact .inr ⟨hread.trans (.counted _ _ fun _ => rfl), trivial⟩

lemma reassembler_input (bytes : Bytes) :
    (e.input w bytes).reassembler = e.reassembler.after (e.fragmentEvents w (.input bytes)) := by
  rcases e.input_fragments_cases w bytes with ⟨d, f, hread, heq, hevents⟩ | ⟨h, hevents⟩
  · rw [heq, hevents, reassembler_processDatagram, hread.linksOnly.reassembler]
    rfl
  · rw [hevents, h.linksOnly.reassembler]
    rfl

lemma reassembler_sweep : (e.sweep w w.now).1.reassembler = (e.reassembler.sweep w.now).1 := by
  rw [← (e.linkWork_sweepLinks w.now e.links.live).linksOnly.reassembler]
  exact (linkWork_absorb ..).linksOnly.reassembler

lemma reassembler_start : (e.start w).1.reassembler = e.reassembler := by
  unfold start
  split
  · rfl
  · dsimp only
    split <;> rfl

lemma reassembler_stop :
    (e.stop w).1.reassembler = e.reassembler.after (e.fragmentEvents w .stop) := by
  unfold stop fragmentEvents
  cases e.running with
  | false => rfl
  | true => exact (linkWork_absorb ..).linksOnly.reassembler

/-- An event is for the reassembler what `fragmentEvents` says. -/
theorem reassembler_step (event : Event) :
    (e.step w event).reassembler = e.reassembler.after (e.fragmentEvents w event) := by
  cases event with
  | input bytes => exact e.reassembler_input w bytes
  | connected id socket => exact (e.linkWork_connected w id socket).linksOnly.reassembler
  | dialFailed id => exact (e.linkWork_dialFailed w id).linksOnly.reassembler
  | flow event => exact (linkWork_absorb ..).linksOnly.reassembler
  | carried id sent received => rfl
  | sweep => exact e.reassembler_sweep w
  | start => exact e.reassembler_start w
  | stop => exact e.reassembler_stop w

end Views

def fragmentHistory (e : Engine) : List (Surroundings × Event) → FragmentHistory
  | [] => []
  | (w, event) :: rest => e.fragmentEvents w event ++ (e.step w event).fragmentHistory rest

theorem reassembler_run (e : Engine) (events : List (Surroundings × Event)) :
    (e.run events).reassembler = e.reassembler.after (e.fragmentHistory events) := by
  induction events generalizing e with
  | nil => rfl
  | cons x rest ih =>
    rw [run_cons, ih, reassembler_step, fragmentHistory, Reassembler.after, Reassembler.after,
      Reassembler.after, List.foldl_append]

/-- The limits of reassembly are those that the engine began with. -/
theorem fragmentLimits_run {c : Config} {runtime : Bool} {e : Engine}
    (hbuild : build c runtime = .ok e) (events : List (Surroundings × Event)) :
    (e.run events).reassembler.timeout = c.fragmentTimeout ∧
      (e.run events).reassembler.capacity = 1024 := by
  rw [reassembler_run, Reassembler.timeout_after, Reassembler.capacity_after]
  obtain ⟨-, rfl⟩ := build_eq_ok hbuild
  exact ⟨rfl, rfl⟩

end GuestNat.Engine
