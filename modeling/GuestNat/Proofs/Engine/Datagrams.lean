import GuestNat.Engine.Run
import Mathlib.Tactic.Common

/-!
# What a datagram does

A frame of UDP or ICMP is offered to the reassembler; what is whole is sent to a flow or forwarded,
and the rest is counted. `Dispatches` lists these parts, so what each of them preserves is
preserved by a datagram (`dispatches_processDatagram`), and what is read is a segment or no more
than such parts (`input_cases`).
-/
namespace GuestNat.Engine

/-- Parts of what a datagram does, one behind the other. -/
inductive Dispatches (w : Surroundings) : Engine → Engine → Prop
  | offered (e : Engine) (f : Frame) :
      Dispatches w e { e with reassembler := (e.reassembler.offer f w.now).1 }
  | sent (e : Engine) (d : Datagram) :
      Dispatches w e
        ({ e with flows := (e.flows.send d w.now).1 }.absorb w (e.flows.send d w.now).2.2)
  | forwarded (e : Engine) (m : IcmpMessage) : Dispatches w e (e.emit (.icmp m))
  | dropped (e : Engine) : Dispatches w e (e.count .frameDropped)
  | buffered (e : Engine) : Dispatches w e (e.count .fragmentBuffered)
  | reassembled (e : Engine) : Dispatches w e (e.count .datagramReassembled)
  | trans {e d e' : Engine} (h : Dispatches w e d) (h' : Dispatches w d e') : Dispatches w e e'

variable (e : Engine) (w : Surroundings)

lemma dispatches_processUdp (f : Frame) : Dispatches w e (e.processUdp w f) := by
  unfold processUdp
  split
  · exact .dropped e
  · rename_i d _
    dsimp only
    split
    · exact .sent e d
    · exact (Dispatches.sent e d).trans (.dropped _)

lemma dispatches_processIcmp (f : Frame) : Dispatches w e (e.processIcmp w f) := by
  unfold processIcmp
  split
  · exact .dropped e
  · rename_i m _
    split
    · exact .dropped e
    · dsimp only
      split
      · exact .forwarded e m
      · exact (Dispatches.forwarded e m).trans (.dropped _)

theorem dispatches_processDatagram (f : Frame) : Dispatches w e (e.processDatagram w f) := by
  have hdeliver : ∀ (d : Engine) (g : Frame),
      Dispatches w d (if g.protocol = .udp then d.processUdp w g else d.processIcmp w g) := by
    intro d g
    split
    · exact d.dispatches_processUdp w g
    · exact d.dispatches_processIcmp w g
  have hoffered := Dispatches.offered (w := w) e f
  unfold processDatagram
  dsimp only
  split
  · exact hoffered.trans (hdeliver _ f)
  · exact hoffered.trans (.buffered _)
  · exact (hoffered.trans (.reassembled _)).trans (hdeliver ..)
  · exact hoffered.trans (.dropped _)

lemma processFrame_cases (f : Frame) :
    (∃ s, e.processFrame w f = e.processTcp w s) ∨ Dispatches w e (e.processFrame w f) := by
  unfold processFrame
  split
  · split
    · exact .inl ⟨_, rfl⟩
    · exact .inr (.dropped e)
  · exact .inr (e.dispatches_processDatagram w f)
  · exact .inr (e.dispatches_processDatagram w f)
  · exact .inr (.dropped e)

theorem input_cases (bytes : Bytes) :
    ∃ f, (∃ s, e.input w bytes = (e.count f).processTcp w s) ∨
      Dispatches w (e.count f) (e.input w bytes) := by
  unfold input
  split
  · exact ⟨id, .inr (.dropped e)⟩
  · exact ⟨_, processFrame_cases ..⟩

end GuestNat.Engine
