import GuestNat.Proofs.Engine.Events

/-!
# Connections do not disturb each other

A segment concerns one link at most: the live one of its 4-tuple, or, from the listener, the live
one whose stand-in it goes to. Any other link is left alone, in both indexes and in everything
that is kept of it (`segment_concerns_own_link`), also where the segment opens a link or closes a
finished one. What goes to the gateway from elsewhere concerns none, and is only counted.
-/
namespace GuestNat

namespace LinkTable

/-- A link is known as it was, and the indexes lead to it from where they did. -/
structure LeavesAlone (t t' : LinkTable) (id : LinkId) : Prop where
  link : t'.link? id = t.link? id
  tuple : ∀ k, t'.byTuple.get? k = some id ↔ t.byTuple.get? k = some id
  port : ∀ p, t'.byPort.get? p = some id ↔ t.byPort.get? p = some id

variable {t t' t'' : LinkTable} {id j : LinkId}

namespace LeavesAlone

lemma refl (t : LinkTable) (id : LinkId) : t.LeavesAlone t id :=
  ⟨rfl, fun _ => .rfl, fun _ => .rfl⟩

lemma of_eq (h : t' = t) : t.LeavesAlone t' id := h ▸ .refl t id

lemma trans (h : t.LeavesAlone t' id) (h' : t'.LeavesAlone t'' id) : t.LeavesAlone t'' id where
  link := h'.link.trans h.link
  tuple k := (h'.tuple k).trans (h.tuple k)
  port p := (h'.port p).trans (h.port p)

end LeavesAlone

lemma leavesAlone_modify (hne : id ≠ j) (f : Link → Link) : t.LeavesAlone (t.modify j f) id where
  link := by rw [link?_modify, if_neg hne]
  tuple _ := .rfl
  port _ := .rfl

lemma leavesAlone_drop {l : Link} (hk : t.byTuple.get? l.key = some l.id)
    (hp : t.byPort.get? l.port = some l.id) (hne : id ≠ l.id) : t.LeavesAlone (t.drop l) id where
  link := by rw [link?_drop, if_neg hne]
  tuple k := by
    rw [byTuple_drop]
    split
    · rename_i hkey
      simp [hkey, hk, Ne.symm hne]
    · rfl
  port p := by
    rw [byPort_drop]
    split
    · rename_i hport
      simp [hport, hp, Ne.symm hne]
    · rfl

lemma leavesAlone_create {key : LinkKey} {port : UInt16} (now : Nat)
    (hk : t.byTuple.get? key = none) (hp : t.byPort.get? port = none) (hne : id ≠ t.nextId) :
    t.LeavesAlone (t.create key port now) id where
  link := by rw [link?_create, if_neg hne]
  tuple k := by
    rw [byTuple_create]
    split
    · rename_i hkey
      simp [hkey, hk, Ne.symm hne]
    · rfl
  port p := by
    rw [byPort_create]
    split
    · rename_i hport
      simp [hport, hp, Ne.symm hne]
    · rfl

/-- A link that is created takes neither the 4-tuple nor the port of another. -/
lemma leavesAlone_allocate {key : LinkKey} (reserved : List UInt16) (now : Nat)
    (hkey : t.byTuple.get? key ≠ some id) (hnew : id ≠ t.nextId) :
    t.LeavesAlone (t.allocate key reserved now).1 id := by
  rcases t.allocate_cases key reserved now with
    ⟨i, hi, ha⟩ | ⟨ports, -, -, ha⟩ | ⟨port, ports, hfree, hp, ha⟩
  · rw [ha]
    refine leavesAlone_modify ?_ _
    rintro rfl
    exact hkey hi
  · rw [ha]
    exact ⟨rfl, fun _ => .rfl, fun _ => .rfl⟩
  · rw [ha]
    have hport : t.byPort.get? port = none := by
      simpa [Table.contains] using PortPool.allocate_free hp
    have hcreated := leavesAlone_create (t := { t with ports }) now hfree hport hnew
    exact ⟨hcreated.link, hcreated.tuple, hcreated.port⟩

end LinkTable

namespace Engine

section Steps

variable {e : Engine} {w : Surroundings} {s : Segment} {id j : LinkId}

lemma leavesAlone_closeLink (h : e.Coherent) (hne : id ≠ j) :
    e.links.LeavesAlone (e.closeLink j).1.links id := by
  rcases e.closeLink_cases j with hsame | ⟨l, hl, hk, hclosed⟩
  · rw [hsame]
    exact .refl ..
  · obtain rfl := h.id_eq hl
    obtain ⟨m, hm, -, hp⟩ := h.consistent.tuple _ _ hk
    obtain rfl := Option.some.inj (hl.symm.trans hm)
    rw [hclosed]
    exact LinkTable.leavesAlone_drop hk hp hne

lemma leavesAlone_dropFinished (h : e.Coherent) {key : LinkKey}
    (hkey : e.links.byTuple.get? key ≠ some id) :
    e.links.LeavesAlone (e.dropFinished key).links id := by
  refine dropFinished_induction (P := fun d => e.links.LeavesAlone d.links id) e key (.refl ..)
    fun l hl => leavesAlone_closeLink h ?_
  rintro rfl
  exact hkey (h.consistent.of_findTuple hl).1

lemma leavesAlone_repeatSyn {l : Link} (hne : id ≠ l.id) :
    e.links.LeavesAlone (e.repeatSyn w l s).links id := by
  have hobserved : e.links.LeavesAlone (e.links.modify l.id (·.observe .guest s)) id :=
    LinkTable.leavesAlone_modify hne _
  unfold repeatSyn
  dsimp only
  split
  · rw [links_write]
    exact hobserved
  · exact hobserved.trans (LinkTable.leavesAlone_modify hne _)

/-- A request of the guest concerns the live link of its 4-tuple or a new one. -/
lemma leavesAlone_processSyn (h : e.Coherent)
    (hkey : e.links.byTuple.get? (s.source, s.destination) ≠ some id)
    (hnew : id ≠ e.links.nextId) : e.links.LeavesAlone (e.processSyn w s).links id := by
  have hdrop := leavesAlone_dropFinished h hkey
  have hnext := e.nextId_dropFinished (s.source, s.destination)
  have hlabelled := (e.relinks_dropFinished (s.source, s.destination)).labelled h.links.labelled
  have ho := e.requestOutcome_processSyn w s
  generalize e.dropFinished (s.source, s.destination) = d, e.processSyn w s = e'
    at hdrop hnext hlabelled ho ⊢
  rw [Ne, ← hdrop.tuple] at hkey
  rw [← hnext] at hnew
  refine hdrop.trans ?_
  have htouched : ∀ i, d.links.byTuple.get? (s.source, s.destination) = some i →
      d.links.LeavesAlone (d.modifyLink i (·.touch w.now)).links id := by
    intro i hi
    refine LinkTable.leavesAlone_modify ?_ _
    rintro rfl
    exact hkey hi
  have hallocated := d.links.leavesAlone_allocate w.reserved w.now hkey hnew
  cases ho with
  | @repeated i l hi hl =>
    obtain rfl := (d.relinks_modifyLink i (Link.inPlace_touch w.now)).labelled hlabelled i l hl
    refine (htouched l.id hi).trans (leavesAlone_repeatSyn ?_)
    rintro rfl
    exact hkey hi
  | @unknown i hi => exact htouched i hi
  | refused ha =>
    rw [ha] at hallocated
    rw [(spares_sendReset ..).links]
    exact hallocated
  | opened _ ha =>
    rw [ha] at hallocated
    exact hallocated.trans (LinkTable.leavesAlone_modify hnew _)

lemma leavesAlone_processForward (h : e.Coherent)
    (hkey : e.links.byTuple.get? (s.source, s.destination) ≠ some id) :
    e.links.LeavesAlone (e.processForward w s).links id := by
  unfold processForward
  split
  · exact .of_eq (spares_sendReset ..).links
  · rename_i l hl
    have hne : id ≠ l.id := by
      rintro rfl
      exact hkey (h.consistent.of_findTuple hl).1
    have hheard : e.links.LeavesAlone
        (e.links.modify l.id fun l => (l.observe .guest s).touch w.now) id :=
      LinkTable.leavesAlone_modify hne _
    dsimp only
    split_ifs
    · exact hheard.trans (LinkTable.leavesAlone_modify hne _)
    · exact hheard
    · rw [links_write]
      exact hheard

/-- A segment from the listener concerns the live link of the port it goes to. -/
lemma leavesAlone_processReply (h : e.Coherent)
    (hport : e.links.byPort.get? s.destination.port ≠ some id) :
    e.links.LeavesAlone (e.processReply w s).links id := by
  unfold processReply
  split
  · exact .of_eq (spares_sendReset ..).links
  · rename_i l hl
    have hne : id ≠ l.id := by
      rintro rfl
      obtain ⟨i, hi, hli⟩ := Option.bind_eq_some_iff.mp hl
      rw [← h.id_eq hli] at hi
      exact hport hi
    rw [links_write]
    exact LinkTable.leavesAlone_modify hne _

/-- What goes to the gateway from elsewhere than the listener is only counted, once as a packet
with its octets and once as dropped. -/
lemma input_of_stray {bytes : Bytes} (hs : e.Reads bytes s)
    (hip : s.destination.ip = e.config.gateway) (hsource : s.source ≠ e.config.listener) :
    e.input w bytes =
      { e with
        counters :=
          { e.counters with
            framesDropped := e.counters.framesDropped + 1
            inbound :=
              { e.counters.inbound with
                tcp :=
                  { packets := e.counters.inbound.tcp.packets + 1
                    octets := e.counters.inbound.tcp.octets + .ofNat bytes.length } } } } := by
  rw [input_eq_of_reads hs, processTcp, config_count, if_pos hip, if_neg hsource]
  rfl

/-- A segment concerns no link but the live one that it belongs to or that it opens. -/
lemma leavesAlone_input (h : e.Coherent) {bytes : Bytes} (hs : e.Reads bytes s)
    (hnew : id ≠ e.links.nextId)
    (hkey : e.links.byTuple.get? (s.source, s.destination) ≠ some id)
    (hport : s.source = e.config.listener → s.destination.ip = e.config.gateway →
      e.links.byPort.get? s.destination.port ≠ some id) :
    e.links.LeavesAlone (e.input w bytes).links id := by
  have hcounted := h.count (·.record .inbound .tcp bytes.length)
  have hconfig := e.config_count (·.record .inbound .tcp bytes.length)
  have hlinks := e.links_count (·.record .inbound .tcp bytes.length)
  rw [input_eq_of_reads hs]
  generalize e.count (·.record .inbound .tcp bytes.length) = d at hcounted hconfig hlinks ⊢
  rw [← hlinks] at hnew hkey hport ⊢
  rw [← hconfig] at hport
  unfold processTcp
  split_ifs with hip hsource
  · exact leavesAlone_processReply hcounted (hport hsource hip)
  · exact .of_eq (d.links_count _)
  · exact leavesAlone_processSyn hcounted hkey hnew
  · exact leavesAlone_processForward hcounted hkey

/-- A segment leaves a link alone that has left the table or to which it does not belong. -/
lemma leavesAlone_of_stranger (h : e.Coherent) {bytes : Bytes} (hs : e.Reads bytes s) {l : Link}
    (hl : e.links.link? id = some l)
    (hother : l.closed = true ∨ (s.source, s.destination) ≠ l.key ∧
      (s.source = e.config.listener → s.destination.ip = e.config.gateway →
        s.destination ≠ l.standIn)) :
    e.links.LeavesAlone (e.input w bytes).links id := by
  -- An index leads to the link only from its own 4-tuple and port, and only while it is live.
  have hlive : ∀ k, e.links.byTuple.get? k = some id → l.closed = false ∧ l.key = k := by
    intro k hk
    obtain ⟨m, hm, hkey, -⟩ := h.consistent.tuple k id hk
    obtain rfl := Option.some.inj (hl.symm.trans hm)
    exact ⟨(h.consistent.open_iff id l hl).mpr (hkey ▸ hk), hkey⟩
  refine leavesAlone_input h hs ?_ (fun hk => ?_) (fun hsource hip hp => ?_)
  · rintro rfl
    rw [h.nextId_unknown] at hl
    cases hl
  · obtain ⟨hopen, hkey⟩ := hlive _ hk
    rcases hother with hclosed | ⟨hne, -⟩
    · simp [hopen] at hclosed
    · exact hne hkey.symm
  · obtain ⟨m, hm, hport, hk⟩ := h.consistent.port _ id hp
    obtain rfl := Option.some.inj (hl.symm.trans hm)
    obtain ⟨hopen, -⟩ := hlive _ hk
    rcases hother with hclosed | ⟨-, hne⟩
    · simp [hopen] at hclosed
    · exact hne hsource hip (h.eq_standIn hl hip hport.symm)

end Steps

/-- In every state that a run leads to, a segment leaves every link as it was, in both indexes
too, that has left the table or has another 4-tuple, and, where the segment goes from the
listener to the gateway, another stand-in than the one it goes to. A segment that goes to the
gateway from elsewhere changes nothing but three counters: there is one frame more that was
dropped, and one TCP packet more that came in, with its octets. -/
theorem segment_concerns_own_link {c : Config} {e₀ : Engine} (hbuild : build c true = .ok e₀)
    (events : List (Surroundings × Event)) (hdials : (e₀.run events).dials < UInt64.size) :
    let e := e₀.run events
    ∀ (w : Surroundings) (bytes : Bytes) (s : Segment),
      Segment.ofBytes? c.verify bytes = some s →
      (∀ id l, e.links.link? id = some l →
        (l.closed = true ∨ (s.source, s.destination) ≠ l.key ∧
          (s.source = c.listener → s.destination.ip = c.gateway → s.destination ≠ l.standIn)) →
        e.links.LeavesAlone (e.input w bytes).links id) ∧
      (s.destination.ip = c.gateway → s.source ≠ c.listener →
        e.input w bytes =
          { e with
            counters :=
              { e.counters with
                framesDropped := e.counters.framesDropped + 1
                inbound :=
                  { e.counters.inbound with
                    tcp :=
                      { packets := e.counters.inbound.tcp.packets + 1
                        octets := e.counters.inbound.tcp.octets + .ofNat bytes.length } } } }) := by
  intro e w bytes s hs
  have h : e.Coherent := coherent_run hbuild events hdials
  obtain ⟨-, hconfig⟩ : e.Sound ∧ e.config = c := sound_run hbuild events
  obtain rfl := hconfig
  exact ⟨fun id l hl hother => leavesAlone_of_stranger h hs hl hother, input_of_stray hs⟩

/-- Two connections of one guest are open. A reset ends the first and leaves the second alone,
and a segment that goes to the stand-in of the first from elsewhere than the listener is
dropped: it is the first frame that is, and the third packet of 40 octets that came in. -/
theorem segment_concerns_own_link_neighbours :
    let syn (port : UInt16) : Segment :=
      { source := ⟨⟨10, 0, 0, 5⟩, port⟩, destination := ⟨⟨93, 184, 216, 34⟩, 80⟩
        flags := { syn := true } }
    let rst : Segment := { syn 51000 with flags := { rst := true } }
    let stray : Segment := { rst with destination := ⟨⟨10, 0, 0, 2⟩, 49152⟩ }
    let events : List (Surroundings × Event) :=
      [({}, .input (syn 51000).toBytes), ({}, .connected 1 7), ({}, .input (syn 51001).toBytes),
        ({}, .connected 2 8)]
    let e := (ofConfig {}).run events
    build {} true = .ok (ofConfig {}) ∧ e.dials < UInt64.size ∧
      (e.input {} rst.toBytes).links.link? 1 ≠ e.links.link? 1 ∧
      (e.links.link? 2).any (fun l => (rst.source, rst.destination) ≠ l.key) = true ∧
      e.links.LeavesAlone (e.input {} rst.toBytes).links 2 ∧
      (e.input {} stray.toBytes).links = e.links ∧
      (e.input {} stray.toBytes).outbox = e.outbox ∧
      e.counters.framesDropped = 0 ∧ (e.input {} stray.toBytes).counters.framesDropped = 1 ∧
      e.counters.inbound = { tcp := ⟨2, 80⟩ } ∧
      (e.input {} stray.toBytes).counters.inbound = { tcp := ⟨3, 120⟩ } := by
  intro syn rst stray events e
  have hbuild : build {} true = .ok (ofConfig {}) := rfl
  have hdials : e.dials < UInt64.size := by decide +kernel
  let l := (e.links.link? 2).getD default
  have hl : e.links.link? 2 = some l := by decide +kernel
  have hkey : (rst.source, rst.destination) ≠ l.key := by decide +kernel
  obtain ⟨halone, -⟩ := segment_concerns_own_link hbuild events hdials {} rst.toBytes rst
    (by decide +kernel)
  obtain ⟨-, hstray⟩ := segment_concerns_own_link hbuild events hdials {} stray.toBytes stray
    (by decide +kernel)
  have hdropped := hstray rfl (by decide)
  have hlength : stray.toBytes.length = 40 := by decide +kernel
  have hnone : e.counters.framesDropped = 0 := by decide +kernel
  have hbefore : e.counters.inbound = { tcp := ⟨2, 80⟩ } := by decide +kernel
  refine ⟨hbuild, hdials, by decide +kernel, ?_, ?_, ?_, ?_, hnone, ?_, hbefore, ?_⟩
  · rw [hl, Option.any_some]
    exact decide_eq_true hkey
  · exact halone 2 l hl (.inr ⟨hkey, fun hsource => absurd hsource (by decide)⟩)
  · rw [hdropped]
  · rw [hdropped]
  · rw [hdropped, hnone]
    rfl
  · rw [hdropped, hbefore, hlength]
    rfl

end Engine

end GuestNat
