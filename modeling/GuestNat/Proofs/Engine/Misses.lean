import GuestNat.Proofs.Engine.Completion

/-!
# Segments that find no link

A segment whose link is unknown, or was closed, is answered with one reset that its sender can
accept, and with nothing at all if it is a reset itself. Neither touches the link table. What was
answered does not come back: the reset, read again, is answered with nothing unless a live link
owns it (`miss_answered_once`).
-/
namespace GuestNat

namespace Segment

/-- The reset that the sender of a segment accepts: from where the segment went, with the number
that it acknowledges, or else with an acknowledgment of all that it takes up. -/
def refusal (s : Segment) : Segment where
  source := s.destination
  destination := s.source
  sequence := if s.flags.ack then s.acknowledgment else 0
  acknowledgment :=
    if s.flags.ack then 0
    else .ofNat (s.sequence.toNat + s.payload.length + s.flags.syn.toNat + s.flags.fin.toNat)
  flags := { rst := true, ack := !s.flags.ack }

lemma reset_eq_refusal (s : Segment) : s.reset = s.refusal := by
  have hnumber : s.sequence + s.sequenceLength =
      .ofNat (s.sequence.toNat + s.payload.length + s.flags.syn.toNat + s.flags.fin.toNat) := by
    simp only [sequenceLength, UInt32.ofNat_add, UInt32.ofNat_toNat, UInt32.add_assoc]
  unfold reset refusal
  cases s.flags.ack with
  | true => rfl
  | false => simp only [hnumber, Bool.false_eq_true, if_false, Bool.not_false]

lemma ofBytes?_refusal (s : Segment) (verify : Bool) :
    ofBytes? verify s.refusal.toBytes = some s.refusal :=
  ofBytes?_toBytes s.refusal verify ⟨rfl, Nat.zero_le _⟩ (by decide : 20 + 0 + 0 ≤ 65515)

end Segment

namespace Engine

/-- The live link that a segment belongs to: to the gateway only the listener speaks, and to the
link of a port; any other segment belongs to the link of its 4-tuple. -/
def owner? (e : Engine) (s : Segment) : Option Link :=
  if s.destination.ip = e.config.gateway then
    if s.source = e.config.listener then e.links.findPort s.destination.port else none
  else e.links.findTuple (s.source, s.destination)

section

variable {e : Engine} {w : Surroundings} {bytes : Bytes} {s : Segment}

/-- A reset that no link owns changes nothing but the counters. -/
lemma input_of_unowned (hs : e.Reads bytes s) (hreset : s.flags.rst = true)
    (hopens : s.flags.opens = false) (howner : e.owner? s = none) :
    (e.input w bytes).outbox = e.outbox ∧ (e.input w bytes).links = e.links := by
  rw [input_eq_of_reads hs, processTcp, config_count, hopens]
  unfold owner? at howner
  split_ifs at howner with hip hsource
  · rw [if_pos hip, if_pos hsource, processReply, links_count, howner]
    dsimp only
    rw [sendReset_of_reset hreset]
    exact ⟨rfl, rfl⟩
  · rw [if_pos hip, if_neg hsource]
    exact ⟨rfl, rfl⟩
  · rw [if_neg hip, if_neg Bool.false_ne_true, processForward, links_count, howner]
    dsimp only
    rw [sendReset_of_reset hreset]
    exact ⟨rfl, rfl⟩

/-- A segment that could only go on along a link, and finds none, is answered with a reset. -/
lemma input_of_miss (hs : e.Reads bytes s)
    (hmiss : (s.source = e.config.listener ∧ s.destination.ip = e.config.gateway ∧
        e.links.findPort s.destination.port = none) ∨
      (s.destination.ip ≠ e.config.gateway ∧ s.flags.opens = false ∧
        e.links.findTuple (s.source, s.destination) = none)) :
    e.input w bytes = (e.count (·.record .inbound .tcp bytes.length)).sendReset w s := by
  rw [input_eq_of_reads hs, processTcp, config_count]
  rcases hmiss with ⟨hsource, hip, hport⟩ | ⟨hip, hopens, hkey⟩
  · rw [if_pos hip, if_pos hsource, processReply, links_count, hport]
  · rw [if_neg hip, hopens, if_neg Bool.false_ne_true, processForward, links_count, hkey]

end

/-- In every state that a run leads to, a segment from the listener to a port of the gateway that
has no link, or one of the guest that opens nothing and whose 4-tuple has no link, leaves the link
table with its cursor and its identities as it is. If it is a reset, nothing is written. Otherwise,
if the interface takes frames, exactly one is written, which reads back as the reset that refuses
the segment, and which, read again, makes the engine write nothing and leaves the link table alone
unless a live link owns it. -/
theorem miss_answered_once {c : Config} {e₀ : Engine} (hbuild : build c true = .ok e₀)
    (events : List (Surroundings × Event)) :
    let e := e₀.run events
    ∀ (w : Surroundings) (bytes : Bytes) (s : Segment), w.accepts = true →
      Segment.ofBytes? c.verify bytes = some s →
      (s.source = c.listener ∧ s.destination.ip = c.gateway ∧
          e.links.findPort s.destination.port = none) ∨
        (s.destination.ip ≠ c.gateway ∧ s.flags.opens = false ∧
          e.links.findTuple (s.source, s.destination) = none) →
      (e.input w bytes).links = e.links ∧
      (s.flags.rst = true → (e.input w bytes).outbox = e.outbox) ∧
      (s.flags.rst = false → ∃ out,
        (e.input w bytes).outbox = e.outbox ++ [.frame .reset out] ∧
        Segment.ofBytes? true out = some s.refusal ∧
        ∀ w' : Surroundings, e.owner? s.refusal = none →
          ((e.input w bytes).input w' out).outbox = (e.input w bytes).outbox ∧
          ((e.input w bytes).input w' out).links = e.links) := by
  intro e w bytes s hw hs hmiss
  obtain ⟨-, hconfig⟩ : e.Sound ∧ e.config = c := sound_run hbuild events
  obtain rfl := hconfig
  have hinput := input_of_miss (w := w) hs hmiss
  have hspares : e.Spares (e.input w bytes) := by
    rw [hinput]
    exact (e.spares_count _).trans (spares_sendReset ..)
  refine ⟨hspares.links, fun hreset => ?_, fun hreset => ?_⟩
  · rw [hinput, sendReset_of_reset hreset]
    rfl
  · refine ⟨s.refusal.toBytes, ?_, s.ofBytes?_refusal true, fun w' howner => ?_⟩
    · rw [hinput, outbox_sendReset hw hreset, s.reset_eq_refusal]
      rfl
    · have howner' : (e.input w bytes).owner? s.refusal = none := by
        rw [owner?, hspares.config, hspares.links]
        exact howner
      obtain ⟨houtbox, hlinks⟩ :=
        input_of_unowned (w := w') (s.ofBytes?_refusal _) rfl rfl howner'
      exact ⟨houtbox, hlinks.trans hspares.links⟩

/-- The connection of the guest could not be opened. Its data and FIN come all the same, across
the end of the numbers, and are answered; so is a segment of the listener to the port that is
free again, but not the reset of the guest. -/
theorem miss_answered_once_wrapped :
    let syn : Segment :=
      { source := ⟨⟨10, 0, 0, 5⟩, 51000⟩, destination := ⟨⟨93, 184, 216, 34⟩, 80⟩
        flags := { syn := true }, sequence := 4294967294 }
    let fin : Segment :=
      { syn with flags := { fin := true }, sequence := 4294967295, payload := [104, 105] }
    let rst : Segment := { fin with flags := { rst := true } }
    let reply : Segment :=
      { source := ⟨⟨10, 0, 0, 1⟩, 7070⟩, destination := ⟨⟨10, 0, 0, 2⟩, 49152⟩
        flags := { ack := true }, acknowledgment := 77 }
    let e := (ofConfig {}).run [({}, .input syn.toBytes), ({}, .dialFailed 1)]
    build {} true = .ok (ofConfig {}) ∧
      (∃ out, (e.input {} fin.toBytes).outbox = e.outbox ++ [.frame .reset out] ∧
        Segment.ofBytes? true out = some
          { source := fin.destination, destination := fin.source, acknowledgment := 2
            flags := { rst := true, ack := true } } ∧
        ((e.input {} fin.toBytes).input {} out).outbox = (e.input {} fin.toBytes).outbox) ∧
      (∃ out, (e.input {} reply.toBytes).outbox = e.outbox ++ [.frame .reset out] ∧
        Segment.ofBytes? true out = some
          { source := reply.destination, destination := reply.source, sequence := 77
            flags := { rst := true } }) ∧
      (e.input {} rst.toBytes).outbox = e.outbox ∧ (e.input {} rst.toBytes).links = e.links := by
  intro syn fin rst reply e
  have hbuild : build {} true = .ok (ofConfig {}) := rfl
  have hmiss := miss_answered_once hbuild [({}, .input syn.toBytes), ({}, .dialFailed 1)] {}
  have hfree : e.links.findTuple (fin.source, fin.destination) = none := by decide +kernel
  have hport : e.links.findPort 49152 = none := by decide +kernel
  obtain ⟨-, -, hfin⟩ := hmiss fin.toBytes fin rfl (by decide +kernel)
    (.inr ⟨by decide, rfl, hfree⟩)
  obtain ⟨-, -, hreply⟩ := hmiss reply.toBytes reply rfl (by decide +kernel)
    (.inl ⟨rfl, rfl, hport⟩)
  obtain ⟨hlinks, hrst, -⟩ := hmiss rst.toBytes rst rfl (by decide +kernel)
    (.inr ⟨by decide, rfl, hfree⟩)
  obtain ⟨out, houtbox, hread, hback⟩ := hfin rfl
  obtain ⟨out', houtbox', hread', -⟩ := hreply rfl
  have hrefusal : fin.refusal =
      { source := fin.destination, destination := fin.source, acknowledgment := 2
        flags := { rst := true, ack := true } } := by decide
  exact ⟨hbuild, ⟨out, houtbox, hrefusal ▸ hread, (hback {} (by decide +kernel)).1⟩,
    ⟨out', houtbox', hread'⟩, hrst rfl, hlinks⟩

end Engine

end GuestNat
