import GuestNat.Proofs.Engine.Events

/-!
# Completions of connections

A connection may complete long after its link has left the table, when a newer link uses the
same 4-tuple or the same port. The completion then concerns nothing but the socket that comes
with it; otherwise it concerns its own link only (`completion_concerns_own_link`).
-/
namespace GuestNat

namespace Engine

/-- A connection was opened for a live link: the link has the socket, and the request that
waited, if one did, goes out. -/
structure Attaches (e e' : Engine) (w : Surroundings) (l : Link) (socket : SocketId) : Prop where
  links : ∀ j, e'.links.link? j =
    if j = l.id then some { l with socket := some socket, pending := none } else e.links.link? j
  byTuple : e'.links.byTuple = e.links.byTuple
  byPort : e'.links.byPort = e.links.byPort
  written : w.accepts = true → ∀ syn, l.pending = some syn →
    e'.outbox = e.outbox ++ [.frame .translated syn.toBytes]
  silent : l.pending = none → e'.outbox = e.outbox ∧ e'.counters = e.counters

/-- A connection could not be opened for a live link: the link and no other leaves the table,
and the guest gets a reset if a request waited that was none itself. -/
structure GivesUp (e e' : Engine) (w : Surroundings) (l : Link) : Prop where
  links : ∀ j, e'.links.link? j = if j = l.id then some l.dispose else e.links.link? j
  byTuple : ∀ k, e'.links.byTuple.get? k = if k = l.key then none else e.links.byTuple.get? k
  byPort : ∀ p, e'.links.byPort.get? p = if p = l.port then none else e.links.byPort.get? p
  closed : e'.counters.linksClosed = e.counters.linksClosed + 1
  reset : w.accepts = true → ∀ syn, l.pending = some syn → syn.flags.rst = false →
    ∃ r : Segment, r.source = l.destination ∧ r.destination = l.source ∧ r.flags.rst = true ∧
      e'.outbox = e.outbox ++ [.frame .reset r.toBytes]
  silent : (∀ syn, l.pending = some syn → syn.flags.rst = true) → e'.outbox = e.outbox

section

variable {e : Engine} {w : Surroundings} {l : Link}

@[simp] theorem linksClosed_write (cause : FrameCause) (f : Frame) :
    (e.write w cause f).counters.linksClosed = e.counters.linksClosed := by
  unfold write
  split <;> rfl

@[simp] theorem linksClosed_sendReset (s : Segment) :
    (e.sendReset w s).counters.linksClosed = e.counters.linksClosed := by
  unfold sendReset
  split
  · rfl
  · dsimp only
    split
    · exact linksClosed_write ..
    · exact linksClosed_write ..

/-- A segment that is no reset is answered with exactly one. -/
lemma outbox_sendReset (hw : w.accepts = true) {s : Segment} (hs : s.flags.rst = false) :
    (e.sendReset w s).outbox = e.outbox ++ [.frame .reset s.reset.toBytes] := by
  simp only [sendReset, hs, hw, Bool.false_eq_true, if_false, if_true]
  exact outbox_write hw ..

lemma sendReset_of_reset {s : Segment} (hs : s.flags.rst = true) : e.sendReset w s = e := by
  simp only [sendReset, hs, if_true]

lemma attaches_connected (hid : l.id ∈ e.dialing) (hl : e.links.link? l.id = some l)
    (hopen : l.closed = false) (socket : SocketId) :
    e.Attaches (e.connected w l.id socket) w l socket := by
  have hlinks : (e.connected w l.id socket).links = (e.attach l socket).links := by
    rw [connected_of_open hid hl hopen]
    cases l.pending with
    | none => rfl
    | some syn => exact links_write ..
  constructor
  case links => exact link?_connected hid hl hopen
  case byTuple =>
    rw [hlinks]
    rfl
  case byPort =>
    rw [hlinks]
    rfl
  case written =>
    intro hw syn hsyn
    rw [connected_of_open hid hl hopen, hsyn]
    exact outbox_write hw ..
  case silent =>
    intro hnone
    rw [connected_of_open hid hl hopen, hnone]
    exact ⟨rfl, rfl⟩

lemma givesUp_dialFailed (h : e.Coherent) (hid : l.id ∈ e.dialing)
    (hl : e.links.link? l.id = some l) (hopen : l.closed = false) (hsocket : l.socket = none) :
    e.GivesUp (e.dialFailed w l.id) w l := by
  have hgiven := giveUp_of_open h hl hopen hsocket
  have hdrop : (e.dialFailed w l.id).links =
      (e.links.modify l.id fun l => { l with pending := none }).drop l := by
    rw [links_dialFailed hid hl, hgiven]
  constructor
  case links =>
    intro j
    rw [links_dialFailed hid hl, link?_giveUp h hl hopen hsocket]
  case byTuple =>
    intro k
    rw [hdrop, LinkTable.byTuple_drop]
    rfl
  case byPort =>
    intro p
    rw [hdrop, LinkTable.byPort_drop]
    rfl
  case closed =>
    rw [dialFailed_eq hid hl, hgiven]
    cases l.pending with
    | none => rfl
    | some syn => exact linksClosed_sendReset _
  case reset =>
    intro hw syn hsyn hrst
    refine ⟨({ syn with source := l.source, destination := l.destination } : Segment).reset,
      Segment.source_reset _, Segment.destination_reset _, Segment.rst_reset _, ?_⟩
    rw [dialFailed_eq hid hl, hsyn, hgiven]
    exact outbox_sendReset hw hrst
  case silent =>
    intro hnone
    rw [dialFailed_eq hid hl, hgiven]
    cases hsyn : l.pending with
    | none => rfl
    | some syn =>
      rw [Option.elim_some, sendReset_of_reset]
      exact hnone syn hsyn

end

/-- In every state that a run leads to, each connection that is being opened belongs to a link
that is known. Once that link has left the table, success only closes the socket, and failure
does nothing, whatever newer links there are. Until then, success attaches the socket and lets
the waiting request go out, and failure takes this link and no other out of the table, counts
it as closed and answers a request that waits with one reset, unless it is a reset itself. A
connection completes once. -/
theorem completion_concerns_own_link {c : Config} {e₀ : Engine}
    (hbuild : build c true = .ok e₀) (events : List (Surroundings × Event))
    (hdials : (e₀.run events).dials < UInt64.size) :
    let e := e₀.run events
    ∀ id ∈ e.dialing, ∃ l, e.links.link? id = some l ∧
      (e.links.findTuple l.key ≠ some l → ∀ w : Surroundings,
        (∀ socket, e.step w (.connected id socket) =
          { e with dialing := e.dialing.erase id, outbox := e.outbox ++ [.hangUp socket] }) ∧
        e.step w (.dialFailed id) = { e with dialing := e.dialing.erase id }) ∧
      (e.links.findTuple l.key = some l → ∀ w : Surroundings,
        (∀ socket, e.Attaches (e.step w (.connected id socket)) w l socket) ∧
        e.GivesUp (e.step w (.dialFailed id)) w l) ∧
      ∀ (w : Surroundings) (event : Event), event.Completes id →
        id ∉ (e.step w event).dialing := by
  intro e id hid
  have h : e.Coherent := coherent_run hbuild events hdials
  obtain ⟨l, hl, hsocket⟩ := h.known id hid
  obtain rfl := h.id_eq hl
  have hclosed := (h.consistent.closed_iff hl).1
  refine ⟨l, hl, fun hgone w => ?_, fun hlive w => ?_, fun w event hevent => ?_⟩
  · have hclosed := hclosed.mpr hgone
    refine ⟨fun socket => connected_of_closed hid hl hclosed, ?_⟩
    change e.dialFailed w l.id = _
    rw [dialFailed_eq hid hl, ((h.orderly l.id l hl).closed hclosed).1]
    exact giveUp_of_closed h hl hclosed
  · have hopen : l.closed = false := Bool.eq_false_iff.mpr fun hc => hclosed.mp hc hlive
    exact ⟨attaches_connected hid hl hopen, givesUp_dialFailed h hid hl hopen hsocket⟩
  · rw [(e.dialing_step w event).done l.id hevent]
    exact h.once.not_mem_erase

/-- A reset cancels a request, and a new one takes the 4-tuple: the first connection comes too
late, and the second fails. -/
theorem completion_concerns_own_link_superseded :
    let syn : Segment :=
      { source := ⟨⟨10, 0, 0, 5⟩, 51000⟩, destination := ⟨⟨93, 184, 216, 34⟩, 80⟩
        flags := { syn := true } }
    let rst : Segment := { syn with flags := { rst := true } }
    let events : List (Surroundings × Event) :=
      [({}, .input syn.toBytes), ({}, .input rst.toBytes), ({}, .input syn.toBytes)]
    let e := (ofConfig {}).run events
    build {} true = .ok (ofConfig {}) ∧ e.dials < UInt64.size ∧ e.dialing = [1, 2] ∧
      e.connected {} 1 7 = { e with dialing := [2], outbox := e.outbox ++ [.hangUp 7] } ∧
      ∃ r : Segment, r.source = syn.destination ∧ r.destination = syn.source ∧
        r.flags.rst = true ∧
        (e.dialFailed {} 2).outbox = e.outbox ++ [.frame .reset r.toBytes] := by
  intro syn rst events e
  let old := (e.links.link? 1).getD default
  let new := (e.links.link? 2).getD default
  have hbuild : build {} true = .ok (ofConfig {}) := rfl
  have hdials : e.dials < UInt64.size := by decide +kernel
  have hdialing : e.dialing = [1, 2] := by decide +kernel
  have hold : e.links.link? 1 = some old := by decide +kernel
  have hnew : e.links.link? 2 = some new := by decide +kernel
  obtain ⟨l, hl, hgone, -⟩ :=
    completion_concerns_own_link hbuild events hdials 1 (by rw [hdialing]; decide)
  obtain ⟨m, hm, -, hlive, -⟩ :=
    completion_concerns_own_link hbuild events hdials 2 (by rw [hdialing]; decide)
  obtain rfl : old = l := Option.some.inj (hold.symm.trans hl)
  obtain rfl : new = m := Option.some.inj (hnew.symm.trans hm)
  obtain ⟨hlate, -⟩ := hgone (by decide +kernel) {}
  obtain ⟨-, hgives⟩ := hlive (by decide +kernel) {}
  obtain ⟨r, hsource, hdestination, hrst, houtbox⟩ :=
    hgives.reset rfl (e.translate new syn) (by decide +kernel) rfl
  refine ⟨hbuild, hdials, hdialing, ?_, r, hsource.trans (by decide +kernel),
    hdestination.trans (by decide +kernel), hrst, houtbox⟩
  have h := hlate 7
  rw [hdialing] at h
  exact h

end Engine

end GuestNat
