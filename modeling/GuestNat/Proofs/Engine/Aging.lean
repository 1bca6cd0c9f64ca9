import GuestNat.Proofs.Engine.Sweeping
import GuestNat.Proofs.Link.Handshake

/-!
# How links age out

A sweep that finds a link closing, or idle for too long, begins its grace period, unless an
earlier sweep has begun it. Nothing ends the period or begins it again, and a link whose period
has begun is never opening, so the first sweep at the end of the period takes the link out of
the table, whatever arrived meanwhile (`gone_of_swept`). It follows that an idle link leaves the
table (`link_ages_out`), except that a sweep ahead of its time has the grace period begin at
that time (`sweep_ahead_defers`).
-/
namespace GuestNat

/-- Whether an event is traffic of a link: a segment of one of its sides, or payload that was
relayed. -/
def Event.IsTraffic (c : Config) (l : Link) : Event → Prop
  | .input bytes => ∃ s, Segment.ofBytes? c.verify bytes = some s ∧
      ((s.source, s.destination) = l.key ∨ s.source = c.listener ∧ s.destination = l.standIn)
  | .carried id _ _ => id = l.id
  | _ => False

namespace Link

/-- The state of a link comes from what was seen of it, and its grace period does not begin
before the handshake is over. -/
structure Aged (l : Link) : Prop where
  seen : ∃ seen, l.state = LinkState.after seen
  begun : l.finalSince.isSome = true → l.closed = false → l.state.opening = false

/-- The link has left the table, or its grace period began at a time. -/
def Due (since : Nat) (l : Link) : Prop := l.closed = true ∨ l.finalSince = some since

section

variable {l : Link} {c : Config} {now : Nat}

lemma stage_eq_opening_iff : l.stage = .opening ↔ l.state.stage = .opening := by
  unfold stage
  cases l.state.stage <;> cases l.finalSince <;> simp

namespace Aged

lemma stage_eq_opening_iff (h : l.Aged) : l.stage = .opening ↔ l.state.opening = true := by
  obtain ⟨seen, hseen⟩ := h.seen
  rw [Link.stage_eq_opening_iff, hseen, LinkState.stage_eq_opening_iff,
    LinkState.opening_eq_true_iff]

lemma heard (h : l.Aged) (side : Side) (s : Segment) (now : Nat) :
    (Engine.heard l side s now).Aged := by
  obtain ⟨seen, hseen⟩ := h.seen
  have hstate : (Engine.heard l side s now).state =
      l.state.see ⟨side, s, l.socket.isSome⟩ := rfl
  refine ⟨⟨seen ++ [⟨side, s, l.socket.isSome⟩], ?_⟩, fun hsince hopen => ?_⟩
  · rw [hstate, hseen, LinkState.after_concat]
  · refine Bool.eq_false_iff.mpr fun hopening => ?_
    rw [hstate] at hopening
    have hbefore := (LinkState.of_opening_see hopening).1
    simp [h.begun hsince hopen] at hbefore

/-- The grace period of a link begins when it is connected or closing. -/
lemma swept (h : l.Aged) : (l.swept c now).Aged := by
  unfold Link.swept
  cases hverdict : c.verdict now l with
  | keep => exact h
  | close => exact ⟨h.seen, fun _ hopen => nomatch hopen⟩
  | finalize =>
    dsimp only
    split
    · exact ⟨h.seen, fun _ hopen => nomatch hopen⟩
    · refine ⟨h.seen, fun _ _ => Bool.eq_false_iff.mpr fun hopening => ?_⟩
      have hstage := h.stage_eq_opening_iff.mpr hopening
      simp only [Config.verdict, hstage] at hverdict
      split at hverdict <;> cases hverdict

lemma verdict_ne_keep (h : l.Aged) (hbegun : l.finalSince.isSome = true)
    (hopen : l.closed = false) : c.verdict now l ≠ .keep := by
  have hopening : l.stage ≠ .opening := by
    rw [Ne, h.stage_eq_opening_iff, h.begun hbegun hopen]
    decide
  have hconnected : l.stage ≠ .connected := by
    unfold Link.stage
    cases l.state.stage <;> simp [hbegun]
  unfold Config.verdict
  cases hstage : l.stage with
  | opening => exact absurd hstage hopening
  | connected => exact absurd hstage hconnected
  | closing => cases c.subnet <;> simp
  | closed => simp

end Aged

lemma verdict_ne_keep_of_idle (hidle : max c.maxInactivity c.maxSyn < l.idle now) :
    c.verdict now l ≠ .keep := by
  have hactive : c.maxInactivity < l.idle now := by omega
  have hsyn : c.maxSyn < l.idle now := by omega
  unfold Config.verdict
  cases l.stage <;> cases c.subnet <;> simp [hactive, hsyn]

lemma due_swept (hverdict : c.verdict now l ≠ .keep) :
    (l.swept c now).Due (l.finalSince.getD now) := by
  unfold Link.swept
  cases h : c.verdict now l with
  | keep => exact absurd h hverdict
  | close => exact .inl rfl
  | finalize =>
    dsimp only
    split
    · exact .inl rfl
    · exact .inr rfl

lemma closed_swept (hverdict : c.verdict now l ≠ .keep)
    (hover : l.finalSince.getD now + c.maxFinal ≤ now) : (l.swept c now).closed = true := by
  unfold Link.swept
  cases h : c.verdict now l with
  | keep => exact absurd h hverdict
  | close => rfl
  | finalize =>
    dsimp only
    rw [if_pos (by omega)]
    rfl

lemma begun_swept (hnone : l.finalSince = none) {since : Nat}
    (hsince : (l.swept c now).finalSince = some since) :
    c.verdict now l ≠ .keep ∧ since = now := by
  unfold Link.swept at hsince
  cases h : c.verdict now l with
  | keep => simp [h, hnone] at hsince
  | close => simp [h, hnone, dispose] at hsince
  | finalize =>
    refine ⟨by simp, ?_⟩
    rw [h] at hsince
    dsimp only at hsince
    split at hsince <;> simpa [hnone, beginFinal, detach, dispose] using hsince.symm

end

end Link

namespace Engine

/-- No traffic of a link that is in the table then occurs in a run after a time. -/
def Silent (id : LinkId) (t : Nat) : Engine → List (Surroundings × Event) → Prop
  | _, [] => True
  | e, (w, event) :: rest =>
    (∀ l, (e.step w event).links.link? id = some l → l.closed = false →
      event.IsTraffic e.config l → w.now ≤ t) ∧ Silent id t (e.step w event) rest

namespace Fate

variable {e e' : Engine} {w : Surroundings} {id : LinkId} {event : Event}
variable {o : Option Link} {l l' : Link} {sent : List (FrameCause × Flags)}

/-- A sweep aside, no event begins a grace period or opens a link again. -/
lemma aged (hfate : Fate e e' w id event o (some l') sent) (hevent : event ≠ .sweep)
    (ho : ∀ l ∈ o, l.Aged) : l'.Aged := by
  cases hfate with
  | spared => exact ho l' rfl
  | answered | forwarded | held | repeated => exact (ho _ rfl).heard ..
  | @cancelled _ _ s | @awaits _ _ s =>
    have h := (ho _ rfl).heard .guest s w.now
    exact ⟨h.seen, h.begun⟩
  | @opened _ s => exact ⟨⟨[⟨.guest, s, false⟩], rfl⟩, nofun⟩
  | attached | carried =>
    have h := ho _ rfl
    exact ⟨h.seen, h.begun⟩
  | finalized => exact absurd rfl hevent
  | closed =>
    have h := ho _ rfl
    exact ⟨h.seen, fun _ hopen => nomatch hopen⟩

lemma closed_of_closed (hfate : Fate e e' w id event (some l) (some l') sent)
    (hclosed : l.closed = true) : l'.closed = true := by
  cases hfate with
  | closed => rfl
  | _ => exact hclosed

lemma due (hfate : Fate e e' w id event (some l) (some l') sent) {since : Nat}
    (hdue : l.Due since) : l'.Due since := by
  cases hfate with
  | finalized => exact hdue.imp_right fun hsince => by simp [Link.detach, Link.beginFinal, hsince]
  | closed => exact .inl rfl
  | _ => exact hdue

lemma lastActive_le (hfate : Fate e e' w id event o (some l') sent) {t : Nat}
    (hid : l'.id = id) (hopen : l'.closed = false)
    (ho : ∀ l ∈ o, l.closed = false → l.lastActive ≤ t)
    (htraffic : event.IsTraffic e.config l' → w.now ≤ t) : l'.lastActive ≤ t := by
  cases hfate with
  | spared => exact ho l' rfl hopen
  | @answered _ l _ hr hsource hdestination =>
    exact Nat.max_le.mpr ⟨ho l rfl hopen, htraffic ⟨_, hr, .inr ⟨hsource, hdestination⟩⟩⟩
  | @forwarded _ l _ hs | @held _ l _ hs | @cancelled _ l _ hs | @repeated _ l _ hs
  | @awaits _ l _ hs =>
    exact Nat.max_le.mpr ⟨ho l rfl hopen, htraffic ⟨_, hs.reads, .inl hs.key⟩⟩
  | opened hs => exact htraffic ⟨_, hs, .inl rfl⟩
  | @attached l | @finalized l => exact ho l rfl hopen
  | @carried l => exact Nat.max_le.mpr ⟨ho l rfl hopen, htraffic hid.symm⟩
  | closed => cases hopen

end Fate

/-- What holds of the age of every link that is known. -/
def Aged (e : Engine) : Prop := ∀ id l, e.links.link? id = some l → l.Aged

section Steps

variable {e : Engine} {l : Link} (w : Surroundings)

lemma Aged.step (ha : e.Aged) (h : e.Coherent) (event : Event) : (e.step w event).Aged := by
  intro id l' hl'
  by_cases hevent : event = .sweep
  · subst hevent
    change (sweepIn e.links.live e w w.now).1.links.link? id = some l' at hl'
    rw [link?_sweepIn h (.refl _), Option.map_eq_some_iff] at hl'
    obtain ⟨l, hl, rfl⟩ := hl'
    split
    · exact ha id l hl
    · exact (ha id l hl).swept
  · obtain ⟨sent, hfate, -⟩ := meets_step h w event id
    rw [hl'] at hfate
    exact hfate.aged hevent fun l hl => ha id l hl

end Steps

section Runs

variable {e : Engine} {id : LinkId} {l : Link} {events : List (Surroundings × Event)}

lemma Aged.run (ha : e.Aged) (h : e.Coherent) (hdials : (e.run events).dials < UInt64.size) :
    (e.run events).Aged :=
  (h.run_induction ha (fun _ w event h ha => ha.step w h event) events hdials).2

lemma not_live_of_closed (h : e.Coherent) (hl : e.links.link? id = some l)
    (hclosed : l.closed = true) (hdials : (e.run events).dials < UInt64.size) :
    id ∉ (e.run events).links.live := by
  obtain ⟨m, hm, hmc⟩ := link_persists Fate.closed_of_closed h hl hclosed hdials
  have hrun := h.run hdials
  obtain rfl := hrun.id_eq hm
  rw [hrun.mem_live_iff hm, hmc]
  decide

lemma not_live_of_due (h : e.Coherent) (ha : e.Aged) (hl : e.links.link? id = some l)
    {since : Nat} (hdue : l.Due since) {w : Surroundings} (hw : (w, Event.sweep) ∈ events)
    (hover : since + e.config.maxFinal ≤ w.now) (hdials : (e.run events).dials < UInt64.size) :
    id ∉ (e.run events).links.live := by
  obtain ⟨before, after, rfl⟩ := List.append_of_mem hw
  have hbefore := dials_lt_of_append h.links.labelled hdials
  have hd := h.run hbefore
  have hconfig := (e.relinks_run h.links.labelled before).config
  have had := ha.run h hbefore
  obtain ⟨m, hm, hdue⟩ := link_persists (fun hfate => hfate.due) h hl hdue hbefore
  rw [run_append] at hdials ⊢
  generalize e.run before = d at hm hd hconfig had hdials ⊢
  obtain rfl := hd.id_eq hm
  cases hclosed : m.closed with
  | true => exact not_live_of_closed hd hm hclosed hdials
  | false =>
    have hsince : m.finalSince = some since := hdue.resolve_left (by simp [hclosed])
    have hverdict : d.config.verdict w.now m ≠ .keep :=
      (had m.id m hm).verdict_ne_keep (by simp [hsince]) hclosed
    have hlink := link?_step_sweep w hd hm hclosed
    have hswept := Link.closed_swept hverdict (by simpa [hsince, hconfig] using hover)
    rw [run_cons]
    exact not_live_of_closed (hd.step_of_run hdials) hlink hswept hdials

/-- A link that a sweep does not keep leaves the table with the first sweep at the end of its
grace period. -/
lemma gone_of_swept (h : e.Coherent) (ha : e.Aged) (hl : e.links.link? l.id = some l)
    {w₁ w₂ : Surroundings} {rest : List (Surroundings × Event)}
    (hverdict : l.closed = false → e.config.verdict w₁.now l ≠ .keep)
    (hw₂ : (w₂, Event.sweep) ∈ (w₁, Event.sweep) :: rest)
    (hover : l.closed = false → l.finalSince.getD w₁.now + e.config.maxFinal ≤ w₂.now)
    (hdials : (e.run ((w₁, .sweep) :: rest)).dials < UInt64.size) :
    l.id ∉ (e.run ((w₁, .sweep) :: rest)).links.live := by
  cases hclosed : l.closed with
  | true => exact not_live_of_closed h hl hclosed hdials
  | false =>
    have hnext := h.step_of_run hdials
    have hlink := link?_step_sweep w₁ h hl hclosed
    rw [run_cons]
    rcases List.mem_cons.mp hw₂ with hfirst | hlater
    · obtain ⟨rfl, -⟩ := Prod.mk.inj hfirst
      exact not_live_of_closed hnext hlink
        (Link.closed_swept (hverdict hclosed) (hover hclosed)) hdials
    · refine not_live_of_due hnext (ha.step w₁ h .sweep) hlink
        (Link.due_swept (hverdict hclosed)) hlater ?_ hdials
      rw [(e.relinks_step w₁ h.links.labelled .sweep).config]
      exact hover hclosed

lemma lastActive_run (h : e.Coherent) {t : Nat} (hsilent : e.Silent id t events)
    (hactive : ∀ l, e.links.link? id = some l → l.closed = false → l.lastActive ≤ t)
    (hdials : (e.run events).dials < UInt64.size) :
    ∀ l, (e.run events).links.link? id = some l → l.closed = false → l.lastActive ≤ t := by
  induction events generalizing e with
  | nil => exact hactive
  | cons x rest ih =>
    obtain ⟨w, event⟩ := x
    have hnext := h.step_of_run hdials
    refine ih hnext hsilent.2 (fun l hl hopen => ?_) hdials
    obtain ⟨sent, hfate, -⟩ := meets_step h w event id
    rw [hl] at hfate
    exact hfate.lastActive_le (hnext.id_eq hl) hopen hactive (hsilent.1 l hl hopen)

end Runs

/-- No link that was ever created outlives its age. Whatever its stage, if its traffic up to a
sweep came no later than a time and the sweep is later than that by more than both limits, it is
out of the table from the first sweep on that comes a grace period later, unless an earlier sweep
had begun its grace period at a time after this one. And once a sweep begins the grace period of
a link, the first sweep at the end of it takes the link out of the table for good. Neither
depends on what arrives in between. -/
theorem link_ages_out {c : Config} {e₀ : Engine} (hbuild : build c true = .ok e₀)
    (past rest : List (Surroundings × Event)) (w₁ : Surroundings)
    (hdials : (e₀.run (past ++ (w₁, .sweep) :: rest)).dials < UInt64.size) :
    let e := e₀.run past
    let e' := e₀.run (past ++ (w₁, .sweep) :: rest)
    ∀ l, e.links.link? l.id = some l → ∀ w₂, (w₂, Event.sweep) ∈ (w₁, Event.sweep) :: rest →
      (∀ t, e₀.Silent l.id t past → t + max c.maxInactivity c.maxSyn < w₁.now →
        (∀ since ∈ l.finalSince, since ≤ w₁.now) → w₁.now + c.maxFinal ≤ w₂.now →
        l.id ∉ e'.links.live) ∧
      (∀ t₀, l.finalSince = none →
        (∀ m, (e.step w₁ .sweep).links.link? l.id = some m → m.finalSince = some t₀) →
        t₀ + c.maxFinal ≤ w₂.now → l.id ∉ e'.links.live) := by
  obtain ⟨-, rfl⟩ := build_eq_ok hbuild
  intro e e' l hl w₂ hw₂
  have h₀ := coherent_ofConfig c
  have hpast := dials_lt_of_append h₀.links.labelled hdials
  have h : e.Coherent := h₀.run hpast
  have ha : e.Aged := Aged.run (by intro id l hl; cases hl) h₀ hpast
  have hconfig : e.config = c := ((ofConfig c).relinks_run h₀.links.labelled past).config
  have hrun : e' = e.run ((w₁, .sweep) :: rest) := run_append ..
  rw [run_append] at hdials
  rw [hrun]
  constructor
  · intro t hsilent hidle hsince hover
    refine gone_of_swept h ha hl (fun hopen => ?_) hw₂ (fun _ => ?_) hdials
    · have hactive := lastActive_run h₀ hsilent (by intro l hl; cases hl) hpast l hl hopen
      refine Link.verdict_ne_keep_of_idle ?_
      rw [hconfig, Link.idle]
      omega
    · have hbegun : l.finalSince.getD w₁.now ≤ w₁.now := by
        cases hs : l.finalSince with
        | none => exact Nat.le_refl _
        | some since => exact hsince since hs
      rw [hconfig]
      omega
  · intro t₀ hnone hbegun hover
    have hswept : l.closed = false →
        e.config.verdict w₁.now l ≠ .keep ∧ t₀ = w₁.now := fun hopen =>
      Link.begun_swept hnone (hbegun _ (link?_step_sweep w₁ h hl hopen))
    refine gone_of_swept h ha hl (fun hopen => (hswept hopen).1) hw₂ (fun hopen => ?_) hdials
    rw [hnone, hconfig, Option.getD_none, ← (hswept hopen).2]
    exact hover

/-- One connection is idle and another was closed by the guest, which asks for it again in its
grace period: both leave the table. -/
theorem link_ages_out_both :
    let syn : Segment :=
      { source := ⟨⟨10, 0, 0, 5⟩, 51000⟩, destination := ⟨⟨93, 184, 216, 34⟩, 80⟩
        flags := { syn := true }, sequence := 100 }
    let accept : Segment :=
      { source := ⟨⟨10, 0, 0, 1⟩, 7070⟩, destination := ⟨⟨10, 0, 0, 2⟩, 49152⟩
        flags := { syn := true, ack := true }, sequence := 5000, acknowledgment := 101 }
    let ack : Segment := { syn with flags := { ack := true }, sequence := 101 }
    let other : Segment := { syn with source := ⟨⟨10, 0, 0, 5⟩, 51001⟩ }
    let fin : Segment := { other with flags := { fin := true, ack := true }, sequence := 101 }
    let past : List (Surroundings × Event) :=
      [({}, .input syn.toBytes), ({}, .connected 1 7), ({}, .input accept.toBytes),
        ({}, .input ack.toBytes), ({}, .input other.toBytes), ({}, .connected 2 8),
        ({}, .input fin.toBytes)]
    let w₁ : Surroundings := { now := 300001 }
    let rest : List (Surroundings × Event) :=
      [({ now := 304000 }, .input other.toBytes), ({ now := 305001 }, .sweep)]
    let e := (ofConfig {}).run (past ++ (w₁, .sweep) :: rest)
    build {} true = .ok (ofConfig {}) ∧ e.dials < UInt64.size ∧
      ((ofConfig {}).run (past ++ [(w₁, .sweep)])).links.live = [1, 2] ∧
      1 ∉ e.links.live ∧ 2 ∉ e.links.live := by
  intro syn accept ack other fin past w₁ rest e
  let idle := (((ofConfig {}).run past).links.link? 1).getD default
  let closing := (((ofConfig {}).run past).links.link? 2).getD default
  have hbuild : build {} true = .ok (ofConfig {}) := rfl
  have hdials : e.dials < UInt64.size := by decide +kernel
  have hlast : (({ now := 305001 } : Surroundings), Event.sweep) ∈ (w₁, Event.sweep) :: rest :=
    .tail _ (.tail _ (.head _))
  have hsilent : (ofConfig {}).Silent 1 0 past := by
    refine ⟨?_, ?_, ?_, ?_, ?_, ?_, ?_, trivial⟩ <;> exact fun _ _ _ _ => Nat.le_refl 0
  have hidle : ((ofConfig {}).run past).links.link? idle.id = some idle := by decide +kernel
  have hclosing : ((ofConfig {}).run past).links.link? closing.id = some closing := by
    decide +kernel
  have hages := link_ages_out hbuild past rest w₁ hdials
  obtain ⟨hfirst, -⟩ := hages idle hidle _ hlast
  obtain ⟨-, hsecond⟩ := hages closing hclosing _ hlast
  have hone : idle.id = 1 := by decide +kernel
  have htwo : closing.id = 2 := by decide +kernel
  rw [hone] at hfirst
  rw [htwo] at hsecond
  refine ⟨hbuild, hdials, by decide +kernel, ?_, ?_⟩
  · exact hfirst 0 hsilent (by decide) (by decide +kernel) (by decide)
  · refine hsecond 300001 (by decide +kernel) (fun m hm => ?_) (by decide)
    have hswept : ((((ofConfig {}).run past).step w₁ .sweep).links.link? 2).bind (·.finalSince) =
        some 300001 := by decide +kernel
    rwa [hm] at hswept

/-- A sweep ahead of its time begins the grace period of a link at that time, so that two sweeps
in between, the first past both limits and the second a grace period later, leave the link in
the table. -/
theorem sweep_ahead_defers :
    let syn : Segment :=
      { source := ⟨⟨10, 0, 0, 5⟩, 51000⟩, destination := ⟨⟨93, 184, 216, 34⟩, 80⟩
        flags := { syn := true }, sequence := 100 }
    let fin : Segment := { syn with flags := { fin := true, ack := true }, sequence := 101 }
    let past : List (Surroundings × Event) :=
      [({}, .input syn.toBytes), ({}, .connected 1 7), ({}, .input fin.toBytes),
        ({ now := 1000000 }, .sweep)]
    let events := past ++ [({ now := 300001 }, .sweep), ({ now := 305001 }, .sweep)]
    let c : Config := {}
    build c true = .ok (ofConfig c) ∧ (ofConfig c).Silent 1 0 events ∧
      1 ∈ ((ofConfig c).run past).links.live ∧ 0 + max c.maxInactivity c.maxSyn < 300001 ∧
      300001 + c.maxFinal ≤ 305001 ∧ 1 ∈ ((ofConfig c).run events).links.live := by
  intro syn fin past events c
  refine ⟨rfl, ⟨?_, ?_, ?_, ?_, ?_, ?_, trivial⟩, by decide +kernel, by decide, by decide,
    by decide +kernel⟩
  · exact fun _ _ _ _ => Nat.le_refl 0
  · exact fun _ _ _ _ => Nat.le_refl 0
  · exact fun _ _ _ _ => Nat.le_refl 0
  · exact fun _ _ _ => False.elim
  · exact fun _ _ _ => False.elim
  · exact fun _ _ _ => False.elim

end Engine

end GuestNat
