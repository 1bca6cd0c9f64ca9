import GuestNat.Proofs.Engine.Links
import GuestNat.Proofs.Wire.RoundTrip

/-!
# What an engine has written from an endpoint

Frames are written with the plain header, so the source and the control bits of a segment
stand at fixed places of its octets. `sentFrom` reads them off what has left the engine. Only
writing a segment adds to it, and only at the source of the segment.
-/
namespace GuestNat

/-- The source and the control bits of a segment in a frame with a plain header. -/
def Segment.head? : Bytes → Option (Endpoint × Flags)
  | _ :: _ :: _ :: _ :: _ :: _ :: _ :: _ :: _ :: p :: _ :: _ ::
      s₃ :: s₂ :: s₁ :: s₀ :: _ :: _ :: _ :: _ ::
      sp₁ :: sp₀ :: _ :: _ :: _ :: _ :: _ :: _ :: _ :: _ :: _ :: _ :: _ :: flags :: _ =>
    if p = Protocol.tcp.number then some (⟨⟨s₃, s₂, s₁, s₀⟩, word16 sp₁ sp₀⟩, Flags.ofByte flags)
    else none
  | _ => none

@[simp] theorem Segment.head?_toFrame (s : Segment) :
    head? s.toFrame.toBytes = some (s.source, s.flags) := by
  obtain ⟨c₁, c₀, hframe⟩ := s.toFrame.toBytes_cons
  obtain ⟨d₁, d₀, hpayload⟩ := s.toFrame_payload_cons
  rw [hframe, hpayload]
  simp only [head?, word16_be16, Flags.ofByte_toByte]
  exact if_pos rfl

@[simp] theorem Segment.source_reset (s : Segment) : s.reset.source = s.destination := by
  unfold reset
  split <;> rfl

@[simp] theorem Segment.destination_reset (s : Segment) : s.reset.destination = s.source := by
  unfold reset
  split <;> rfl

@[simp] theorem Segment.rst_reset (s : Segment) : s.reset.flags.rst = true := by
  unfold reset
  split <;> rfl

@[simp] theorem Datagram.head?_toFrame (d : Datagram) :
    Segment.head? d.toFrame.toBytes = none := by
  obtain ⟨c₁, c₀, hframe⟩ := d.toFrame.toBytes_cons
  rw [hframe]
  unfold Segment.head?
  split
  · rename_i heq
    simp only [List.cons.injEq] at heq
    obtain ⟨-, -, -, -, -, -, -, -, -, hp, -⟩ := heq
    have hne : d.toFrame.protocol.number ≠ Protocol.tcp.number := (by decide : (17 : UInt8) ≠ 6)
    rw [← hp, if_neg hne]
  · rfl

/-- Why a segment was written and with which control bits, if it was written from an
endpoint. -/
def Effect.sentFrom? (a : Endpoint) : Effect → Option (FrameCause × Flags)
  | .frame cause bytes =>
    (Segment.head? bytes).bind fun (source, flags) =>
      if source = a then some (cause, flags) else none
  | _ => none

namespace Engine

/-- The segments that have been written from an endpoint, oldest first. -/
def sentFrom (e : Engine) (a : Endpoint) : List (FrameCause × Flags) :=
  e.outbox.filterMap (·.sentFrom? a)

/-- What a segment that is handed to the interface adds to what was written. -/
def passes (w : Surroundings) (cause : FrameCause) (flags : Flags) : List (FrameCause × Flags) :=
  if w.accepts then [(cause, flags)] else []

section Views

variable (e : Engine) (w : Surroundings) (a : Endpoint)

@[simp] theorem sentFrom_count (f : Counters → Counters) :
    (e.count f).sentFrom a = e.sentFrom a := rfl

@[simp] theorem sentFrom_modifyLink (id : LinkId) (f : Link → Link) :
    (e.modifyLink id f).sentFrom a = e.sentFrom a := rfl

lemma sentFrom_append {e' : Engine} {effects : List Effect}
    (h : e'.outbox = e.outbox ++ effects) :
    e'.sentFrom a = e.sentFrom a ++ effects.filterMap (·.sentFrom? a) := by
  rw [sentFrom, h, List.filterMap_append]
  rfl

lemma sentFrom_append_map {α : Type} {e' : Engine} {f : α → Effect} {xs : List α}
    (h : e'.outbox = e.outbox ++ xs.map f) (hf : ∀ x, (f x).sentFrom? a = none) :
    e'.sentFrom a = e.sentFrom a := by
  have hnil : (xs.map f).filterMap (·.sentFrom? a) = [] := by
    rw [List.filterMap_eq_nil_iff, List.forall_mem_map]
    exact fun x _ => hf x
  rw [e.sentFrom_append a h, hnil, List.append_nil]

lemma sentFrom_emit {x : Effect} (hx : x.sentFrom? a = none) :
    (e.emit x).sentFrom a = e.sentFrom a := by
  have houtbox : (e.emit x).outbox = e.outbox ++ [x] := rfl
  rw [e.sentFrom_append a houtbox, List.filterMap_cons_none hx, List.filterMap_nil,
    List.append_nil]

@[simp] theorem sentFrom_hangUp (ls : List Link) : (e.hangUp ls).sentFrom a = e.sentFrom a :=
  e.sentFrom_append_map a rfl fun _ => rfl

@[simp] theorem sentFrom_noteRouting (answers : List RoutingAnswer) :
    (e.noteRouting answers).sentFrom a = e.sentFrom a :=
  e.sentFrom_append_map a rfl fun _ => rfl

theorem sentFrom_write (cause : FrameCause) (s : Segment) :
    (e.write w cause s.toFrame).sentFrom a =
      e.sentFrom a ++ if s.source = a then passes w cause s.flags else [] := by
  unfold write passes
  by_cases hw : w.accepts = true
  · have houtbox : ((e.emit (.frame cause s.toFrame.toBytes)).count
        (·.record .outbound s.toFrame.protocol s.toFrame.toBytes.length)).outbox =
        e.outbox ++ [.frame cause s.toFrame.toBytes] := rfl
    rw [if_pos hw, if_pos hw, e.sentFrom_append a houtbox]
    by_cases ha : s.source = a <;> simp [Effect.sentFrom?, ha]
  · rw [if_neg hw, if_neg hw]
    simp

theorem sentFrom_write_self (cause : FrameCause) (s : Segment) :
    (e.write w cause s.toFrame).sentFrom s.source =
      e.sentFrom s.source ++ passes w cause s.flags := by
  rw [sentFrom_write, if_pos rfl]

lemma sentFrom_write_of_ne {cause : FrameCause} {s : Segment} (h : s.source ≠ a) :
    (e.write w cause s.toFrame).sentFrom a = e.sentFrom a := by
  rw [sentFrom_write, if_neg h, List.append_nil]

@[simp] theorem sentFrom_write_datagram (cause : FrameCause) (d : Datagram) :
    (e.write w cause d.toFrame).sentFrom a = e.sentFrom a := by
  unfold write
  split
  · rw [sentFrom_count]
    exact e.sentFrom_emit a (by simp [Effect.sentFrom?])
  · rfl

/-- A reset is written from where the segment went that it answers. -/
lemma sentFrom_sendReset {s : Segment} (h : s.destination ≠ a) :
    (e.sendReset w s).sentFrom a = e.sentFrom a := by
  have hwrite : (e.write w .reset s.reset.toFrame).sentFrom a = e.sentFrom a :=
    e.sentFrom_write_of_ne w a (by rwa [Segment.source_reset])
  unfold sendReset
  split
  · rfl
  · dsimp only
    split
    · rw [sentFrom_count, hwrite]
    · exact hwrite

@[simp] theorem sentFrom_absorb (effects : List FlowEffect) :
    (e.absorb w effects).sentFrom a = e.sentFrom a := by
  exact absorb_induction (P := fun d => d.sentFrom a = e.sentFrom a) e effects rfl
    (fun d _ h => (d.sentFrom_write_datagram w a ..).trans h)
    fun d _ h => (d.sentFrom_emit a rfl).trans h

@[simp] theorem sentFrom_closeLink (id : LinkId) :
    (e.closeLink id).1.sentFrom a = e.sentFrom a := by
  unfold closeLink
  split
  · rw [sentFrom_count, sentFrom_hangUp]
    rfl
  · rfl

@[simp] theorem sentFrom_dropFinished (key : LinkKey) :
    (e.dropFinished key).sentFrom a = e.sentFrom a := by
  exact dropFinished_induction (P := fun d => d.sentFrom a = e.sentFrom a) e key rfl
    fun l _ => e.sentFrom_closeLink a l.id

lemma Dispatches.sentFrom {w : Surroundings} {e e' : Engine} (h : Dispatches w e e')
    (a : Endpoint) : e'.sentFrom a = e.sentFrom a := by
  induction h with
  | sent => exact sentFrom_absorb ..
  | forwarded e => exact e.sentFrom_emit a rfl
  | trans _ _ ih ih' => exact ih'.trans ih
  | _ => rfl

end Views

end Engine

end GuestNat
