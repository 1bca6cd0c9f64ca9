import GuestNat.Proofs.Engine.Links
import GuestNat.Proofs.Wire.RoundTrip

/-!
# Address translation loses nothing

A segment of a live link leaves with other endpoints and is otherwise the same, octet
for octet: the frame that is written reads back, checksums verified, as the segment
with the stand-in and the listener for its endpoints, and in the other direction as the
segment with the endpoints of the link (`translation_invertible`). The stand-in tells the
link, so a mirrored segment comes back along the same way.
-/
namespace GuestNat

namespace Segment

/-- The segment with its endpoints exchanged. -/
def mirror (s : Segment) : Segment := { s with source := s.destination, destination := s.source }

/-- Header and payload fit a frame. -/
def FitsFrame (s : Segment) : Prop :=
  20 + s.options.length + s.payload.length ≤ Frame.maxPayload

instance (s : Segment) : Decidable s.FitsFrame :=
  inferInstanceAs (Decidable (20 + s.options.length + s.payload.length ≤ Frame.maxPayload))

/-- A segment that was read from octets can be written with any endpoints. -/
lemma ofBytes?_readdressed {bytes : Bytes} {s : Segment} (h : ofBytes? true bytes = some s)
    (hfits : s.FitsFrame) (source destination : Endpoint) :
    ofBytes? true ({ s with source, destination } : Segment).toBytes =
      some { s with source, destination } := by
  obtain ⟨f, -, hs⟩ := ofBytes?_of_verified h true
  obtain ⟨-, -, -, hheader⟩ := ofFrame?_eq_some hs
  exact ofBytes?_toBytes _ true ⟨hheader.words, hheader.length_le⟩ hfits

end Segment

namespace Engine

/-- Octets make an engine write exactly one frame, and nothing else leaves it: the
translation that reads as a segment. -/
def Translates (e : Engine) (w : Surroundings) (bytes : Bytes) (s : Segment) : Prop :=
  ∃ out, (e.input w bytes).outbox = e.outbox ++ [.frame .translated out] ∧
    Segment.ofBytes? true out = some s

lemma outbox_write {e : Engine} {w : Surroundings} (hw : w.accepts = true) (cause : FrameCause)
    (f : Frame) : (e.write w cause f).outbox = e.outbox ++ [.frame cause f.toBytes] := by
  rw [write, if_pos hw]
  rfl

lemma input_eq {e : Engine} {w : Surroundings} {bytes : Bytes} {s : Segment}
    (h : Segment.ofBytes? true bytes = some s) :
    e.input w bytes = (e.count (·.record .inbound .tcp bytes.length)).processTcp w s := by
  obtain ⟨f, hf, hs⟩ := Segment.ofBytes?_of_verified h e.config.verify
  have hp := (Segment.ofFrame?_eq_some hs).1
  simp only [input, hf, processFrame, hp, config_count, hs]

/-- The link after a segment on a side. -/
def heard (l : Link) (side : Side) (s : Segment) (now : Nat) : Link :=
  (l.observe side s).touch now

lemma inPlace_heard (side : Side) (s : Segment) (now : Nat) :
    Link.InPlace fun l => heard l side s now := ⟨fun _ => rfl, fun _ => rfl⟩

section Live

variable {e : Engine} {w : Surroundings} {bytes : Bytes} {l : Link}

/-- A segment of a live link goes to the host side unless the request that opened the link
still waits. -/
lemma Sound.input_forward (h : e.Sound) (hl : e.links.findTuple l.key = some l)
    (hpending : l.pending = none) {s : Segment} (hs : Segment.ofBytes? true bytes = some s)
    (hkey : (s.source, s.destination) = l.key) (hopens : s.flags.opens = false) :
    e.input w bytes =
      ((e.count (·.record .inbound .tcp bytes.length)).modifyLink l.id
        fun l => heard l .guest s w.now).write w .translated (e.translate l s).toFrame := by
  have hdestination : s.destination.ip ≠ e.config.gateway := by
    have := h.avoids l.id l (h.links.of_findTuple hl).1
    rwa [show l.destination = s.destination from (congrArg Prod.snd hkey).symm] at this
  rw [← hkey] at hl
  simp only [input_eq hs, processTcp, config_count, if_neg hdestination, hopens,
    Bool.false_eq_true, if_false, processForward, links_count, hl, hpending, Option.isSome_none]
  rfl

lemma Sound.input_reply (h : e.Sound) (hl : e.links.findTuple l.key = some l) {r : Segment}
    (hr : Segment.ofBytes? true bytes = some r) (hsource : r.source = e.config.listener)
    (hdestination : r.destination = l.standIn) :
    e.input w bytes =
      ((e.count (·.record .inbound .tcp bytes.length)).modifyLink l.id
        fun l => heard l .host r w.now).write w .translated (untranslate l r).toFrame := by
  have hip : r.destination.ip = e.config.gateway := by
    rw [hdestination, h.links.standIn l.id l (h.links.of_findTuple hl).1, h.gateway]
  have hport : e.links.findPort r.destination.port = some l := by
    rw [hdestination]
    exact h.links.findPort_eq hl
  simp only [input_eq hr, processTcp, config_count, if_pos hip, if_pos hsource, processReply,
    links_count, hport]
  rfl

lemma Sound.translates_forward (h : e.Sound) (hl : e.links.findTuple l.key = some l)
    (hw : w.accepts = true) (hpending : l.pending = none) {s : Segment}
    (hs : Segment.ofBytes? true bytes = some s) (hkey : (s.source, s.destination) = l.key)
    (hopens : s.flags.opens = false) (hfits : s.FitsFrame) :
    e.Translates w bytes { s with source := l.standIn, destination := e.config.listener } := by
  refine ⟨(e.translate l s).toBytes, ?_, Segment.ofBytes?_readdressed hs hfits _ _⟩
  rw [h.input_forward hl hpending hs hkey hopens, outbox_write hw]
  rfl

lemma Sound.translates_reply (h : e.Sound) (hl : e.links.findTuple l.key = some l)
    (hw : w.accepts = true) {r : Segment} (hr : Segment.ofBytes? true bytes = some r)
    (hsource : r.source = e.config.listener) (hdestination : r.destination = l.standIn)
    (hfits : r.FitsFrame) :
    e.Translates w bytes { r with source := l.destination, destination := l.source } := by
  refine ⟨(untranslate l r).toBytes, ?_, Segment.ofBytes?_readdressed hr hfits _ _⟩
  rw [h.input_reply hl hr hsource hdestination, outbox_write hw]
  rfl

lemma Sound.findTuple_modify (h : e.Sound) (hl : e.links.findTuple l.key = some l)
    {f : Link → Link} (hf : Link.InPlace f) :
    (e.links.modify l.id f).findTuple (f l).key = some (f l) := by
  obtain ⟨hlink, hk⟩ := h.links.of_findTuple hl
  rw [Link.key_eq_of_ends (hf.ends l)]
  have hmodified : (e.links.modify l.id f).link? l.id = some (f l) := by
    rw [LinkTable.link?_modify, if_pos rfl, hlink]
    rfl
  exact LinkTable.findTuple_eq hk hmodified

/-- The mirror of a translated segment of the guest comes back as the mirror of the segment. -/
lemma Sound.returns_forward (h : e.Sound) (hl : e.links.findTuple l.key = some l)
    {w' : Surroundings} (hw : w'.accepts = true) (hpending : l.pending = none) {s : Segment}
    (hs : Segment.ofBytes? true bytes = some s) (hkey : (s.source, s.destination) = l.key)
    (hopens : s.flags.opens = false) (hfits : s.FitsFrame) :
    (e.input w bytes).Translates w' (e.translate l s).mirror.toBytes s.mirror := by
  have hr := e.relinks_input w bytes
  have hl' : (e.input w bytes).links.findTuple (heard l .guest s w.now).key =
      some (heard l .guest s w.now) := by
    rw [h.input_forward hl hpending hs hkey hopens, links_write]
    exact h.findTuple_modify hl (inPlace_heard .guest s w.now)
  have hmirror := (h.of_relinks hr).translates_reply hl' hw (Segment.ofBytes?_readdressed hs hfits
    e.config.listener l.standIn) (congrArg Config.listener hr.config).symm rfl hfits
  obtain ⟨hsource, hdestination⟩ := Prod.mk.inj hkey
  change (e.input w bytes).Translates w' (e.translate l s).mirror.toBytes
    { s with source := l.destination, destination := l.source } at hmirror
  rwa [← hsource, ← hdestination] at hmirror

lemma Sound.returns_reply (h : e.Sound) (hl : e.links.findTuple l.key = some l)
    {w' : Surroundings} (hw : w'.accepts = true) (hpending : l.pending = none) {r : Segment}
    (hr : Segment.ofBytes? true bytes = some r) (hsource : r.source = e.config.listener)
    (hdestination : r.destination = l.standIn) (hopens : r.flags.opens = false)
    (hfits : r.FitsFrame) :
    (e.input w bytes).Translates w' (untranslate l r).mirror.toBytes r.mirror := by
  have hin := e.relinks_input w bytes
  have hl' : (e.input w bytes).links.findTuple (heard l .host r w.now).key =
      some (heard l .host r w.now) := by
    rw [h.input_reply hl hr hsource hdestination, links_write]
    exact h.findTuple_modify hl (inPlace_heard .host r w.now)
  have hmirror := (h.of_relinks hin).translates_forward hl' hw hpending
    (Segment.ofBytes?_readdressed hr hfits l.source l.destination) rfl hopens hfits
  rw [hin.config, ← hsource] at hmirror
  change (e.input w bytes).Translates w' (untranslate l r).mirror.toBytes
    { r with source := l.standIn, destination := r.source } at hmirror
  rwa [← hdestination] at hmirror

/-- The listener finds a live link by the stand-in that connects to it. -/
lemma Sound.acceptClient_eq (h : e.Sound) (hl : e.links.findTuple l.key = some l) :
    e.acceptClient (.v4 l.standIn) = some l := by
  have hip : l.standIn.ip = e.config.gateway := by
    rw [h.links.standIn l.id l (h.links.of_findTuple hl).1, h.gateway]
  simp only [acceptClient, hip, if_true]
  exact h.links.findPort_eq hl

/-- The translation of a segment tells the link and the segment. -/
lemma Sound.translate_inj (h : e.Sound) (hl : e.links.findTuple l.key = some l) {m : Link}
    (hm : e.links.findTuple m.key = some m) {s s' : Segment}
    (hkey : (s.source, s.destination) = l.key) (hkey' : (s'.source, s'.destination) = m.key)
    (ht : e.translate l s = e.translate m s') : l = m ∧ s = s' := by
  obtain rfl := h.links.standIn_inj hl hm (congrArg Segment.source ht)
  refine ⟨rfl, ?_⟩
  obtain ⟨hsource, hdestination⟩ := Prod.mk.inj (hkey.trans hkey'.symm)
  cases s
  cases s'
  simp only [translate, Segment.mk.injEq] at ht hsource hdestination ⊢
  simp only [ht, hsource, hdestination, and_self]

lemma untranslate_inj (hl : e.links.findTuple l.key = some l) {m : Link}
    (hm : e.links.findTuple m.key = some m) {r r' : Segment}
    (hr : r.source = e.config.listener ∧ r.destination = l.standIn)
    (hr' : r'.source = e.config.listener ∧ r'.destination = m.standIn)
    (ht : untranslate l r = untranslate m r') : l = m ∧ r = r' := by
  have hkey : l.key = m.key := by
    rw [Link.key, Link.key]
    exact congrArg₂ Prod.mk (congrArg Segment.destination ht) (congrArg Segment.source ht)
  obtain rfl : l = m := by
    rw [hkey, hm] at hl
    exact (Option.some.inj hl).symm
  refine ⟨rfl, ?_⟩
  obtain ⟨hsource, hdestination⟩ := hr
  cases r
  cases r'
  simp only [untranslate, Segment.mk.injEq] at ht hsource hdestination hr' ⊢
  simp only [ht, hsource, hdestination, hr', and_self]

end Live

/-- In every state of an engine, a segment of a live link is written, in both directions, as
itself with only the endpoints replaced, as one frame that reads back: a segment of the guest
goes from the stand-in of the link to the listener, unless it opens the link or the request
that did waits, and whatever the listener sends to the stand-in goes from the destination to
the source. The mirror of what was written is translated to the mirror of what was read, live
links are told apart by their stand-ins, by which the listener finds them, and no two
segments of one direction have the same translation. -/
theorem translation_invertible {c : Config} {e₀ : Engine} (hbuild : build c true = .ok e₀)
    (events : List (Surroundings × Event)) :
    let e := e₀.run events
    (∀ (l : Link) (w : Surroundings) (bytes : Bytes) (s : Segment),
      e.links.findTuple l.key = some l → l.pending = none → w.accepts = true →
      Segment.ofBytes? true bytes = some s → (s.source, s.destination) = l.key →
      s.flags.opens = false → s.FitsFrame →
      let t : Segment := { s with source := l.standIn, destination := c.listener }
      e.Translates w bytes t ∧ ∀ w' : Surroundings, w'.accepts = true →
        (e.input w bytes).Translates w' t.mirror.toBytes s.mirror) ∧
    (∀ (l : Link) (w : Surroundings) (bytes : Bytes) (r : Segment),
      e.links.findTuple l.key = some l → w.accepts = true →
      Segment.ofBytes? true bytes = some r → r.source = c.listener →
      r.destination = l.standIn → r.FitsFrame →
      let t : Segment := { r with source := l.destination, destination := l.source }
      e.Translates w bytes t ∧ (l.pending = none → r.flags.opens = false →
        ∀ w' : Surroundings, w'.accepts = true →
          (e.input w bytes).Translates w' t.mirror.toBytes r.mirror)) ∧
    (∀ l : Link, e.links.findTuple l.key = some l →
      e.acceptClient (.v4 l.standIn) = some l ∧
      ∀ m : Link, e.links.findTuple m.key = some m →
        (l.standIn = m.standIn → l = m) ∧
        (∀ s s' : Segment, (s.source, s.destination) = l.key →
          (s'.source, s'.destination) = m.key →
          ({ s with source := l.standIn, destination := c.listener } : Segment) =
            { s' with source := m.standIn, destination := c.listener } → l = m ∧ s = s') ∧
        ∀ r r' : Segment, r.source = c.listener ∧ r.destination = l.standIn →
          r'.source = c.listener ∧ r'.destination = m.standIn →
          ({ r with source := l.destination, destination := l.source } : Segment) =
            { r' with source := m.destination, destination := m.source } → l = m ∧ r = r') := by
  intro e
  obtain ⟨h, rfl⟩ : e.Sound ∧ e.config = c := sound_run hbuild events
  refine ⟨?_, ?_, ?_⟩
  · intro l w bytes s hl hpending hw hs hkey hopens hfits t
    exact ⟨h.translates_forward hl hw hpending hs hkey hopens hfits,
      fun _ hw' => h.returns_forward hl hw' hpending hs hkey hopens hfits⟩
  · intro l w bytes r hl hw hr hsource hdestination hfits t
    exact ⟨h.translates_reply hl hw hr hsource hdestination hfits,
      fun hpending hopens _ hw' =>
        h.returns_reply hl hw' hpending hr hsource hdestination hopens hfits⟩
  · intro l hl
    exact ⟨h.acceptClient_eq hl, fun m hm => ⟨h.links.standIn_inj hl hm,
      fun _ _ hkey hkey' ht => h.translate_inj hl hm hkey hkey' ht,
      fun _ _ hr hr' ht => untranslate_inj hl hm hr hr' ht⟩⟩

/-- A request opens a link, its connection completes, and two octets of the guest pass. -/
theorem translation_invertible_hello :
    let syn : Segment :=
      { source := ⟨⟨10, 0, 0, 5⟩, 51000⟩, destination := ⟨⟨93, 184, 216, 34⟩, 80⟩
        flags := { syn := true } }
    let s : Segment :=
      { syn with flags := { psh := true, ack := true }, sequence := 1, payload := [104, 105] }
    let t : Segment :=
      { s with source := ⟨⟨10, 0, 0, 2⟩, 49152⟩, destination := ⟨⟨10, 0, 0, 1⟩, 7070⟩ }
    let e := (ofConfig {}).run [({}, .input syn.toBytes), ({}, .connected 1 7)]
    build {} true = .ok (ofConfig {}) ∧ e.Translates {} s.toBytes t ∧
      (e.input {} s.toBytes).Translates {} t.mirror.toBytes s.mirror ∧
      (e.acceptClient (.v4 t.source)).isSome = true := by
  intro syn s t e
  let l := (e.links.link? 1).getD default
  have hbuild : build {} true = .ok (ofConfig {}) := rfl
  have hl : e.links.findTuple l.key = some l := by decide +kernel
  have hs : Segment.ofBytes? true s.toBytes = some s := by decide +kernel
  have hstandIn : l.standIn = t.source := by decide +kernel
  obtain ⟨hforward, -, hlive⟩ :=
    translation_invertible hbuild [({}, .input syn.toBytes), ({}, .connected 1 7)]
  obtain ⟨ht, hback⟩ := hforward l {} s.toBytes s hl (by decide +kernel) rfl hs
    (by decide +kernel) rfl (by decide)
  obtain ⟨haccept, -⟩ := hlive l hl
  rw [hstandIn] at ht hback haccept
  exact ⟨hbuild, ht, hback {} rfl, by rw [haccept]; rfl⟩

end Engine

end GuestNat
