import GuestNat.Proofs.Engine.Events

/-!
# What a waiting request waits for

A request waits on its link for the connection that is being opened, which ends the wait
however it completes. There is one way to wait for nothing: a sweep has taken the socket of
the link away, and a new request of the guest finds the link still there. It is taken for a
repetition of the first, waits, and stops every segment behind it, though no connection is on
its way (`waits_for_connection`).
-/
namespace GuestNat

namespace Engine

/-- The request of a live link waits, and no connection is being opened for the link. -/
def Strands (e : Engine) (id : LinkId) : Prop :=
  ∃ l, e.links.link? id = some l ∧ l.closed = false ∧ l.pending.isSome = true ∧ id ∉ e.dialing

/-- A live link without a socket waits for its connection or for the end of its grace period. -/
def Attended (e : Engine) : Prop :=
  ∀ id l, e.links.link? id = some l → l.closed = false → l.socket = none →
    id ∈ e.dialing ∨ (e.config.subnet = false ∧ l.finalSince.isSome = true)

variable {e e' : Engine} {w : Surroundings} {id : LinkId} {event : Event} {bytes : Bytes}

namespace Fate

variable {o : Option Link} {l' : Link} {sent : List (FrameCause × Flags)}

/-- A live link without a socket is new, or a sweep took the socket away, or there was none
before. -/
lemma without_socket (hfate : Fate e e' w id event o (some l') sent) (hopen : l'.closed = false)
    (hsocket : l'.socket = none) :
    id ∈ e'.dialing ∨ (e.config.subnet = false ∧ l'.finalSince.isSome = true) ∨
      ∃ l, o = some l ∧ l.closed = false ∧ l.socket = none ∧ l.finalSince = l'.finalSince ∧
        (event.Completes id → id ∉ e.dialing) := by
  cases hfate with
  | spared hlate =>
    refine .inr (.inr ⟨l', rfl, hopen, hsocket, rfl, fun hc hid => ?_⟩)
    simp [hlate hc hid l' rfl] at hopen
  | opened _ _ _ hid => exact .inl hid
  | attached => cases hsocket
  | finalized hsubnet => exact .inr (.inl ⟨hsubnet, rfl⟩)
  | closed => cases hopen
  | _ => exact .inr (.inr ⟨_, rfl, hopen, hsocket, rfl, nofun⟩)

/-- A request waits because the link is new, or it is repeated on a link without a socket, or it
waited before. -/
lemma waiting (hfate : Fate e e' w id event o (some l') sent) (hopen : l'.closed = false)
    (hwaits : l'.pending.isSome = true) :
    id ∈ e'.dialing ∨
      (∃ bytes s l, event = .input bytes ∧ o = some l ∧ e.Hears bytes l s ∧
        s.flags.opens = true ∧ ¬l.Finished ∧ l.socket = none) ∨
      ∃ l, o = some l ∧ l.closed = false ∧ l.pending.isSome = true ∧
        (event.Completes id → id ∉ e.dialing) := by
  cases hfate with
  | spared hlate =>
    refine .inr (.inr ⟨l', rfl, hopen, hwaits, fun hc hid => ?_⟩)
    simp [hlate hc hid l' rfl] at hopen
  | cancelled => cases hwaits
  | awaits hs hopens hstays hsocket =>
    exact .inr (.inl ⟨_, _, _, rfl, rfl, hs, hopens, hstays, hsocket⟩)
  | opened _ _ _ hid => exact .inl hid
  | attached => cases hwaits
  | closed => cases hopen
  | _ => exact .inr (.inr ⟨_, rfl, hopen, hwaits, nofun⟩)

/-- The completion of its connection ends the wait of a request. -/
lemma pending_of_completes (hfate : Fate e e' w id event o (some l') sent)
    (hc : event.Completes id) (hid : id ∈ e.dialing) (ho : ∀ l ∈ o, l.Orderly) :
    l'.pending = none := by
  cases hfate with
  | spared hlate => exact ((ho l' rfl).closed (hlate hc hid l' rfl)).1
  | attached => rfl
  | closed => rfl
  | _ => exact hc.elim

end Fate

lemma Attended.step (ha : e.Attended) (h : e.Coherent) (w : Surroundings) (event : Event) :
    (e.step w event).Attended := by
  intro id l' hl' hopen hsocket
  obtain ⟨sent, hfate, -⟩ := meets_step h w event id
  rw [hl'] at hfate
  rw [(e.relinks_step w h.links.labelled event).config]
  rcases hfate.without_socket hopen hsocket with hnew | hgrace | ⟨l, hl, hopen, hsocket, hsince, hc⟩
  · exact .inl hnew
  · exact .inr hgrace
  · rcases ha id l hl hopen hsocket with hid | hgrace
    · exact .inl ((e.dialing_step w event).stays id hid fun hcompletes => hc hcompletes hid)
    · rw [hsince] at hgrace
      exact .inr hgrace

lemma attended_run {c : Config} {e₀ : Engine} (hbuild : build c true = .ok e₀)
    (events : List (Surroundings × Event)) (hdials : (e₀.run events).dials < UInt64.size) :
    (e₀.run events).Attended := by
  obtain ⟨-, rfl⟩ := build_eq_ok hbuild
  have hnone : (ofConfig c).Attended := by intro id l hl; cases hl
  have hrun := (coherent_ofConfig c).run_induction hnone
    (fun _ w event h ha => ha.step h w event) events hdials
  exact hrun.2

lemma input_of_hears (h : e.Coherent) {l : Link} (hl : e.links.link? id = some l) {s : Segment}
    (hs : e.Hears bytes l s) (w : Surroundings) :
    ∃ f, e.input w bytes =
      if s.flags.opens then (e.count f).processSyn w s else (e.count f).processForward w s := by
  obtain ⟨f, heq⟩ := input_of_reads hs.reads w
  refine ⟨f, heq.trans (if_neg ?_)⟩
  have hdestination : s.destination = l.destination := congrArg Prod.snd hs.key
  rw [hdestination]
  exact h.avoids id l hl

lemma awaits_of_hears (h : e.Coherent) {l : Link} (hl : e.links.link? id = some l) {s : Segment}
    (hs : e.Hears bytes l s) (hopens : s.flags.opens = true) (hstays : ¬l.Finished)
    (hsocket : l.socket = none) (w : Surroundings) :
    (e.input w bytes).links.link? id =
      some { heard l .guest s w.now with pending := some (e.translate l s) } := by
  obtain rfl := h.id_eq hl
  obtain ⟨f, heq⟩ := input_of_hears h hl hs w
  rw [heq, if_pos hopens, link?_processSyn_of_stays f h hl hs hstays, if_pos rfl, hsocket]
  rfl

/-- Any other segment of a live link goes out if no request waits. -/
lemma outbox_of_hears (h : e.Coherent) {l : Link} (hl : e.links.link? id = some l) {s : Segment}
    (hs : e.Hears bytes l s) (hopens : s.flags.opens = false) (hpending : l.pending = none)
    (hw : w.accepts = true) :
    (e.input w bytes).outbox = e.outbox ++ [.frame .translated (e.translate l s).toBytes] := by
  obtain ⟨f, heq⟩ := input_of_hears h hl hs w
  have hfind : e.links.findTuple (s.source, s.destination) = some l := by
    rw [hs.key]
    exact h.findTuple_eq hl hs.isOpen
  simp only [heq, hopens, Bool.false_eq_true, if_false, processForward, links_count, hfind,
    hpending, Option.isSome_none]
  exact outbox_write hw ..

/-- A link comes to wait for nothing when its request is repeated after a sweep took its socket
away, and in no other way. -/
lemma strands_step_iff (h : e.Coherent) (hnot : ¬e.Strands id) :
    (e.step w event).Strands id ↔
      ∃ bytes s l, event = .input bytes ∧ e.links.link? id = some l ∧ e.Hears bytes l s ∧
        s.flags.opens = true ∧ ¬l.Finished ∧ l.socket = none ∧ id ∉ e.dialing := by
  have hdialing := e.dialing_step w event
  constructor
  · rintro ⟨l', hl', hopen, hwaits, hid⟩
    obtain ⟨sent, hfate, -⟩ := meets_step h w event id
    rw [hl'] at hfate
    rcases hfate.waiting hopen hwaits with
      hnew | ⟨bytes, s, l, rfl, hl, hs, hopens, hstays, hsocket⟩ | ⟨l, hl, hopen, hwaits, hc⟩
    · exact absurd hnew hid
    · exact ⟨bytes, s, l, rfl, hl, hs, hopens, hstays, hsocket,
        fun hold => hid (hdialing.stays id hold nofun)⟩
    · exact absurd ⟨l, hl, hopen, hwaits, fun hold =>
        hid (hdialing.stays id hold fun hcompletes => hc hcompletes hold)⟩ hnot
  · rintro ⟨bytes, s, l, rfl, hl, hs, hopens, hstays, hsocket, hid⟩
    refine ⟨_, awaits_of_hears h hl hs hopens hstays hsocket w, hs.isOpen, rfl, fun hnew => ?_⟩
    obtain ⟨rfl, -⟩ := (hdialing.comes id hnew).resolve_left hid
    rw [h.nextId_unknown] at hl
    cases hl

/-- In every state that a run leads to, the request of a live link waits for a connection that
is being opened, or the link is in its grace period and has no socket, which no sweep brings
about in a subnet. A completion ends the wait, and while no request waits, segments of the
guest go out. A link comes to wait for nothing exactly when a request of the guest finds it
without a socket though no connection is being opened. -/
theorem waits_for_connection {c : Config} {e₀ : Engine} (hbuild : build c true = .ok e₀)
    (events : List (Surroundings × Event)) (hdials : (e₀.run events).dials < UInt64.size) :
    let e := e₀.run events
    (∀ id l, e.links.link? id = some l → l.closed = false → l.pending.isSome = true →
      id ∈ e.dialing ∨
        (c.subnet = false ∧ l.socket = none ∧ l.finalSince.isSome = true)) ∧
    (∀ id l bytes s w, e.links.link? id = some l → e.Hears bytes l s → s.flags.opens = false →
      w.accepts = true → (e.step w (.input bytes)).outbox = e.outbox → l.pending.isSome = true) ∧
    (∀ id w event, event.Completes id → id ∈ e.dialing →
      ∀ l, (e.step w event).links.link? id = some l → l.pending = none) ∧
    (∀ id w event, ¬e.Strands id → ((e.step w event).Strands id ↔
      ∃ bytes s l, event = .input bytes ∧ e.links.link? id = some l ∧ e.Hears bytes l s ∧
        s.flags.opens = true ∧ ¬l.Finished ∧ l.socket = none ∧ id ∉ e.dialing)) := by
  intro e
  have h : e.Coherent := coherent_run hbuild events hdials
  have ha : e.Attended := attended_run hbuild events hdials
  have hconfig : e.config = c := (sound_run hbuild events).2
  refine ⟨?_, ?_, ?_, fun id w event hnot => strands_step_iff h hnot⟩
  · intro id l hl hopen hwaits
    have hsocket := (h.orderly id l hl).socket hwaits
    refine (ha id l hl hopen hsocket).imp_right fun ⟨hsubnet, hsince⟩ => ?_
    exact ⟨hconfig ▸ hsubnet, hsocket, hsince⟩
  · intro id l bytes s w hl hs hopens hw houtbox
    by_contra hnone
    have hout := outbox_of_hears h hl hs hopens (by simpa using hnone) hw
    rw [show e.input w bytes = e.step w (.input bytes) from rfl, houtbox] at hout
    simp at hout
  · intro id w event hc hid l hl
    obtain ⟨sent, hfate, -⟩ := meets_step h w event id
    rw [hl] at hfate
    exact hfate.pending_of_completes hc hid fun m hm => h.orderly id m hm

/-- A connection of the guest is closed by the guest, a sweep takes its socket away, and a new
request comes. -/
theorem waits_for_connection_swept :
    let syn : Segment :=
      { source := ⟨⟨10, 0, 0, 5⟩, 51000⟩, destination := ⟨⟨93, 184, 216, 34⟩, 80⟩
        flags := { syn := true }, sequence := 100 }
    let fin : Segment := { syn with flags := { fin := true, ack := true }, sequence := 101 }
    let again : Segment := { syn with sequence := 900 }
    let events : List (Surroundings × Event) :=
      [({}, .input syn.toBytes), ({}, .connected 1 7), ({}, .input fin.toBytes), ({}, .sweep)]
    let e := (ofConfig {}).run events
    build {} true = .ok (ofConfig {}) ∧ e.dials < UInt64.size ∧ ¬e.Strands 1 ∧
      (e.step {} (.input again.toBytes)).Strands 1 := by
  intro syn fin again events e
  let l := (e.links.link? 1).getD default
  have hbuild : build {} true = .ok (ofConfig {}) := rfl
  have hdials : e.dials < UInt64.size := by decide +kernel
  have hl : e.links.link? 1 = some l := by decide +kernel
  have hnot : ¬e.Strands 1 := by
    rintro ⟨m, hm, -, hwaits, -⟩
    obtain rfl := Option.some.inj (hl.symm.trans hm)
    exact absurd hwaits (by decide +kernel)
  have hs : e.Hears again.toBytes l again :=
    ⟨by decide +kernel, by decide +kernel, by decide +kernel⟩
  obtain ⟨-, -, -, hstrands⟩ := waits_for_connection hbuild events hdials
  refine ⟨hbuild, hdials, hnot, (hstrands 1 {} _ hnot).mpr ?_⟩
  exact ⟨_, again, l, rfl, hl, hs, rfl, by decide +kernel, by decide +kernel, by decide +kernel⟩

/-- The new request waits on a live link while no connection is being opened, and what the
guest sends next goes nowhere. -/
theorem request_waits_in_vain :
    let syn : Segment :=
      { source := ⟨⟨10, 0, 0, 5⟩, 51000⟩, destination := ⟨⟨93, 184, 216, 34⟩, 80⟩
        flags := { syn := true }, sequence := 100 }
    let fin : Segment := { syn with flags := { fin := true, ack := true }, sequence := 101 }
    let again : Segment := { syn with sequence := 900 }
    let ack : Segment := { syn with flags := { ack := true }, sequence := 901 }
    let e := (ofConfig {}).run [({}, .input syn.toBytes), ({}, .connected 1 7),
      ({}, .input fin.toBytes), ({}, .sweep), ({}, .input again.toBytes)]
    build {} true = .ok (ofConfig {}) ∧ e.dialing = [] ∧
      ((e.links.findTuple (syn.source, syn.destination)).bind (·.pending)).isSome = true ∧
      (e.input {} ack.toBytes).outbox = e.outbox := by
  refine ⟨rfl, ?_, ?_, ?_⟩ <;> decide +kernel

end Engine

end GuestNat
