import GuestNat.Proofs.Engine.Fate

/-!
# Every event, and runs of them

Completions, sweeps and a stop fit the list of `Fate` too, so any event does (`meets_step`).
What holds of a link in every run is then an induction whose step is a case analysis of its
fate; the first of these inductions is here: an engine stays coherent (`coherent_run`).
-/
namespace GuestNat

namespace Engine

section Completions

variable {e : Engine} {w : Surroundings} {id : LinkId}

lemma link?_connected {l : Link} {socket : SocketId} (hid : l.id ∈ e.dialing)
    (hl : e.links.link? l.id = some l) (hopen : l.closed = false) (j : LinkId) :
    (e.connected w l.id socket).links.link? j =
      if j = l.id then some { l with socket := some socket, pending := none }
      else e.links.link? j := by
  have hattach := link?_modifyLink (e := { e with dialing := e.dialing.erase l.id }) hl
    (fun _ => { l with socket := some socket, pending := none }) j
  rw [connected_of_open hid hl hopen]
  cases l.pending with
  | none => exact hattach
  | some syn =>
    rw [Option.elim_some, links_write]
    exact hattach

lemma meets_late {e' : Engine} {event : Event} {j : LinkId}
    (hevent : ∀ i, event.Completes i → i = j)
    (hlate : j ∈ e.dialing → ∀ l ∈ e.links.link? j, l.closed = true)
    (hlinks : e'.links = e.links) (hsent : ∀ a, e'.sentFrom a = e.sentFrom a) :
    e.Meets e' w event id := by
  refine meets_spared (by rw [hlinks]) (fun l _ _ => hsent l.standIn) fun hc => ?_
  obtain rfl := hevent id hc
  exact hlate

lemma meets_connected (h : e.Coherent) {j : LinkId} {socket : SocketId} :
    e.Meets (e.connected w j socket) w (.connected j socket) id := by
  have hevent : ∀ i, (Event.connected j socket).Completes i → i = j := fun _ hi => hi.symm
  by_cases hj : j ∈ e.dialing
  · obtain ⟨m, hm, -⟩ := h.known j hj
    obtain rfl := h.id_eq hm
    cases hclosed : m.closed with
    | true =>
      rw [connected_of_closed hj hm hclosed]
      refine meets_late hevent (fun _ l hl => ?_) rfl fun a => sentFrom_emit _ a rfl
      rwa [Option.some.inj (hl.symm.trans hm)]
    | false =>
      refine meets_changed hm (link?_connected hj hm hclosed) (.attached hj hclosed) ?_ ?_ hevent
      · rw [connected_of_open hj hm hclosed]
        cases hpending : m.pending with
        | none => exact (List.append_nil _).symm
        | some syn =>
          rw [← (h.orderly m.id m hm).source syn hpending]
          exact sentFrom_write_self _ w .translated syn
      · intro i l hne hl hopen
        rw [connected_of_open hj hm hclosed]
        cases hpending : m.pending with
        | none => rfl
        | some syn =>
          refine sentFrom_write_of_ne _ w _ ?_
          rw [(h.orderly m.id m hm).source syn hpending]
          exact h.standIn_ne hl hopen hm hclosed hne
  · rw [connected_of_notMem hj]
    exact meets_late hevent (fun hid => absurd hid hj) rfl fun _ => rfl

lemma giveUp_of_open (h : e.Coherent) {l : Link} (hl : e.links.link? l.id = some l)
    (hopen : l.closed = false) (hsocket : l.socket = none) :
    e.giveUp l =
      { e with
        dialing := e.dialing.erase l.id
        links := (e.links.modify l.id fun l => { l with pending := none }).drop l
        counters := e.counters.linksWereClosed 1 } := by
  have hlink : (e.links.modify l.id fun l => { l with pending := none }).link? l.id =
      some { l with pending := none } := by
    rw [LinkTable.link?_modify, if_pos rfl, hl]
    rfl
  have hclose := LinkTable.closeLink?_eq hlink ((h.consistent.open_iff l.id l hl).mp hopen)
  simp only [giveUp, closeLink, modifyLink, hclose, hangUp, hsocket, List.filterMap_cons,
    List.filterMap_nil, List.map_nil, List.append_nil]
  rfl

lemma link?_giveUp (h : e.Coherent) {l : Link} (hl : e.links.link? l.id = some l)
    (hopen : l.closed = false) (hsocket : l.socket = none) (j : LinkId) :
    (e.giveUp l).links.link? j = if j = l.id then some l.dispose else e.links.link? j := by
  rw [giveUp_of_open h hl hopen hsocket]
  dsimp only
  rw [LinkTable.link?_drop, LinkTable.link?_modify]
  by_cases hj : j = l.id
  · subst hj
    simp only [if_true, hl]
    rfl
  · simp only [if_neg hj]

/-- A closed link that is given up is left as it is. -/
lemma giveUp_of_closed (h : e.Coherent) {l : Link} (hl : e.links.link? l.id = some l)
    (hclosed : l.closed = true) : e.giveUp l = { e with dialing := e.dialing.erase l.id } := by
  have hlinks : (e.links.modify l.id fun l => { l with pending := none }) = e.links := by
    refine LinkTable.modify_eq_self hl ?_
    rw [← ((h.orderly l.id l hl).closed hclosed).1]
  have hclose : e.links.closeLink? l.id = none := by
    have hk := mt (h.consistent.open_iff l.id l hl).mpr (by simp [hclosed])
    simp [LinkTable.closeLink?, hl, hk]
  simp only [giveUp, closeLink, modifyLink, hlinks, hclose]

lemma links_dialFailed {l : Link} (hid : l.id ∈ e.dialing) (hl : e.links.link? l.id = some l) :
    (e.dialFailed w l.id).links = (e.giveUp l).links := by
  rw [dialFailed_eq hid hl]
  cases l.pending with
  | none => rfl
  | some syn => exact (spares_sendReset ..).links

/-- A reset that tells the guest of a failure comes from outside of the gateway. -/
lemma sentFrom_dialFailed (h : e.Coherent) {l : Link} (hid : l.id ∈ e.dialing)
    (hl : e.links.link? l.id = some l) {j : LinkId} {m : Link} (hm : e.links.link? j = some m) :
    (e.dialFailed w l.id).sentFrom m.standIn = e.sentFrom m.standIn := by
  have hgiven : (e.giveUp l).sentFrom m.standIn = e.sentFrom m.standIn :=
    (sentFrom_closeLink ..).trans (sentFrom_modifyLink ..)
  rw [dialFailed_eq hid hl]
  cases l.pending with
  | none => exact hgiven
  | some syn =>
    rw [Option.elim_some, sentFrom_sendReset _ w _ (h.standIn_ne_of_ip hm (h.avoids l.id l hl)),
      hgiven]

lemma meets_dialFailed (h : e.Coherent) {j : LinkId} :
    e.Meets (e.dialFailed w j) w (.dialFailed j) id := by
  have hevent : ∀ i, (Event.dialFailed j).Completes i → i = j := fun _ hi => hi.symm
  by_cases hj : j ∈ e.dialing
  · obtain ⟨m, hm, hsocket⟩ := h.known j hj
    obtain rfl := h.id_eq hm
    cases hclosed : m.closed with
    | true =>
      rw [dialFailed_eq hj hm, ((h.orderly m.id m hm).closed hclosed).1, Option.elim_none,
        giveUp_of_closed h hm hclosed]
      refine meets_late hevent (fun _ l hl => ?_) rfl fun _ => rfl
      rwa [Option.some.inj (hl.symm.trans hm)]
    | false =>
      refine meets_changed hm (fun i => ?_) (.closed m.finalSince)
        ((sentFrom_dialFailed h hj hm hm).trans (List.append_nil _).symm)
        (fun _ _ _ hl _ => sentFrom_dialFailed h hj hm hl) hevent
      rw [links_dialFailed hj hm, link?_giveUp h hm hclosed hsocket]
  · rw [dialFailed_of_notMem hj]
    exact meets_late hevent (fun hid => absurd hid hj) rfl fun _ => rfl

end Completions

/-- What a sweep makes of a link. -/
inductive Swept (subnet : Bool) (now : Nat) (l : Link) : Link → Prop
  | kept : Swept subnet now l l
  | finalized (hsubnet : subnet = false) : Swept subnet now l (l.beginFinal now).detach
  | closed (since : Option Nat) : Swept subnet now l { l with finalSince := since }.dispose

lemma Swept.trans {subnet : Bool} {now : Nat} {l l' l'' : Link} (h : Swept subnet now l l')
    (h' : Swept subnet now l' l'') : Swept subnet now l l'' := by
  cases h' with
  | kept => exact h
  | finalized hsubnet =>
    cases h with
    | kept => exact .finalized hsubnet
    | finalized => exact .finalized hsubnet
    | closed since => exact .closed (some (since.getD now))
  | closed since =>
    cases h with
    | kept => exact .closed since
    | finalized => exact .closed since
    | closed => exact .closed since

/-- The links are known as they were or as a sweep left them, and no segment was written. -/
structure Sweeps (now : Nat) (e e' : Engine) : Prop where
  links : ∀ id, Option.Rel (Swept e.config.subnet now) (e.links.link? id) (e'.links.link? id)
  sent : ∀ a, e'.sentFrom a = e.sentFrom a
  relinks : e.Relinks e'

namespace Sweeps

variable {now : Nat} {e e' e'' : Engine}

lemma of_links (hlinks : e'.links = e.links) (hsent : ∀ a, e'.sentFrom a = e.sentFrom a)
    (hrelinks : e.Relinks e') : Sweeps now e e' where
  links id := by
    rw [hlinks]
    cases e.links.link? id with
    | none => exact .none
    | some l => exact .some .kept
  sent := hsent
  relinks := hrelinks

lemma refl (e : Engine) : Sweeps now e e := of_links rfl (fun _ => rfl) (.refl e)

lemma trans (h : Sweeps now e e') (h' : Sweeps now e' e'') : Sweeps now e e'' where
  links id := by
    have h₁ := h.links id
    have h₂ := h'.links id
    rw [h.relinks.config] at h₂
    generalize e.links.link? id = o at h₁ ⊢
    generalize e'.links.link? id = o' at h₁ h₂
    generalize e''.links.link? id = o'' at h₂ ⊢
    cases h₁ with
    | none => exact h₂
    | some hs =>
      cases h₂ with
      | some hs' => exact .some (hs.trans hs')
  sent a := (h'.sent a).trans (h.sent a)
  relinks := h.relinks.trans h'.relinks

lemma of_swept {id : LinkId} {l l' : Link} (hl : e.links.link? id = some l)
    (hswept : Swept e.config.subnet now l l')
    (hlinks : ∀ j, e'.links.link? j = if j = id then some l' else e.links.link? j)
    (hsent : ∀ a, e'.sentFrom a = e.sentFrom a) (hrelinks : e.Relinks e') :
    Sweeps now e e' where
  links j := by
    rw [hlinks]
    split
    · rename_i hj
      rw [hj, hl]
      exact .some hswept
    · exact (refl e).links j
  sent := hsent
  relinks := hrelinks

end Sweeps

lemma sweeps_closeLink (e : Engine) (hlab : e.links.Labelled) (now : Nat) (id : LinkId) :
    Sweeps now e (e.closeLink id).1 := by
  have hrelinks := e.relinks_closeLink id
  have hsent : ∀ a, (e.closeLink id).1.sentFrom a = e.sentFrom a := fun a => sentFrom_closeLink ..
  rcases e.closeLink_cases id with hsame | ⟨l, hl, -, hclosed⟩
  · rw [hsame]
    exact .refl e
  · obtain rfl := hlab id l hl
    refine .of_swept hl (.closed l.finalSince) (fun j => ?_) hsent hrelinks
    rw [hclosed]
    change (e.links.drop l).link? j = _
    rw [LinkTable.link?_drop]
    split
    · rename_i hj
      rw [hj, hl]
      rfl
    · rfl

lemma verdict_finalize {c : Config} {now : Nat} {l : Link}
    (h : c.verdict now l = .finalize) : c.subnet = false := by
  unfold Config.verdict at h
  cases hc : c.subnet with
  | false => rfl
  | true =>
    simp only [hc, if_true] at h
    split at h
    · cases h
    · split at h <;> cases h
    · split at h <;> cases h
    · cases h

lemma sweeps_sweepLink (e : Engine) (hlab : e.links.Labelled) (now : Nat) (id : LinkId) :
    Sweeps now e (e.sweepLink now id).1 := by
  refine sweepLink_induction (P := Sweeps now e) e id (.refl e) (fun l hl hverdict => ?_)
    fun d h => h.trans (d.sweeps_closeLink (h.relinks.labelled hlab) now id)
  obtain rfl := hlab id l hl
  exact .of_swept hl (.finalized (verdict_finalize hverdict)) (link?_modifyLink hl _)
    (fun a => (sentFrom_hangUp ..).trans (sentFrom_modifyLink ..)) (e.relinks_finalize hl now)

lemma sweeps_sweepLinks (e : Engine) (hlab : e.links.Labelled) (now : Nat) (order : List LinkId) :
    Sweeps now e (e.sweepLinks now order).1 := by
  exact sweepLinks_induction (P := Sweeps now e) e order (.refl e)
    fun d id h => h.trans (d.sweeps_sweepLink (h.relinks.labelled hlab) now id)

section Steps

variable {e : Engine} {w : Surroundings} {id : LinkId}

lemma meets_sweep (h : e.Coherent) : e.Meets (e.sweep w w.now).1 w .sweep id := by
  have hswept := e.sweeps_sweepLinks h.links.labelled w.now e.links.live
  have hlinks : (e.sweep w w.now).1.links = (e.sweepLinks w.now e.links.live).1.links :=
    (spares_absorb ..).links
  have hsent : ∀ a, (e.sweep w w.now).1.sentFrom a = e.sentFrom a := fun a =>
    (sentFrom_absorb ..).trans (hswept.sent a)
  refine ⟨[], ?_, fun l _ _ => (hsent l.standIn).trans (List.append_nil _).symm⟩
  have hrel := hswept.links id
  rw [hlinks]
  generalize e.links.link? id = o at hrel ⊢
  generalize (e.sweepLinks w.now e.links.live).1.links.link? id = o' at hrel ⊢
  cases hrel with
  | none => exact .spared False.elim
  | some hs =>
    cases hs with
    | kept => exact .spared False.elim
    | finalized hsubnet => exact .finalized hsubnet
    | closed since => exact .closed since

@[simp] theorem links_start (e : Engine) (w : Surroundings) :
    (e.start w).1.links = e.links := by
  unfold start
  split
  · rfl
  · dsimp only
    split <;> rfl

lemma links_stop (hrunning : e.running = true) : (e.stop w).1.links = e.links.clear.1 := by
  simp only [stop, hrunning, Bool.not_true, Bool.false_eq_true, if_false]
  exact (spares_absorb ..).links

lemma meets_stop : e.Meets (e.stop w).1 w .stop id := by
  cases hrunning : e.running with
  | false =>
    rw [stop_of_stopped hrunning]
    exact meets_spared rfl (fun _ _ _ => rfl) False.elim
  | true =>
    have hlinks := links_stop (w := w) hrunning
    have hsent : ∀ a, (e.stop w).1.sentFrom a = e.sentFrom a := by
      intro a
      simp only [stop, hrunning, Bool.not_true, Bool.false_eq_true, if_false]
      rw [sentFrom_noteRouting, sentFrom_absorb]
      exact sentFrom_hangUp ..
    cases hl : e.links.link? id with
    | none =>
      refine meets_spared ?_ (fun l _ _ => hsent l.standIn) False.elim
      rw [hlinks, LinkTable.link?_clear, hl, Option.map_none, ite_self]
    | some l =>
      by_cases hlive : id ∈ e.links.live
      · refine meets_known hl ?_ (.closed l.finalSince) fun _ =>
          (hsent _).trans (List.append_nil _).symm
        rw [hlinks, LinkTable.link?_clear, if_pos hlive, hl]
        rfl
      · refine meets_spared ?_ (fun l _ _ => hsent l.standIn) False.elim
        rw [hlinks, LinkTable.link?_clear, if_neg hlive]

lemma meets_carry {j : LinkId} {sent received : UInt64} :
    e.Meets (e.carry w j sent received) w (.carried j sent received) id := by
  unfold carry
  by_cases hj : id = j
  · subst hj
    cases hl : e.links.link? id with
    | none =>
      refine meets_spared ?_ (fun _ _ _ => rfl) False.elim
      rw [modifyLink, LinkTable.link?_modify, hl, Option.map_none, ite_self]
    | some l =>
      exact meets_known hl ((link?_modifyLink hl _ _).trans (if_pos rfl)) .carried
        fun _ => (List.append_nil _).symm
  · refine meets_spared ?_ (fun _ _ _ => rfl) False.elim
    rw [modifyLink, LinkTable.link?_modify, if_neg hj]

lemma meets_start : e.Meets (e.start w).1 w .start id := by
  unfold start
  split
  · exact meets_spared rfl (fun _ _ _ => rfl) False.elim
  · dsimp only
    split
    · exact meets_spared rfl (fun _ _ _ => sentFrom_noteRouting ..) False.elim
    · exact meets_spared rfl (fun _ _ _ => sentFrom_noteRouting ..) False.elim

/-- Any event makes of any link what `Fate` says. -/
theorem meets_step (h : e.Coherent) (w : Surroundings) (event : Event) (id : LinkId) :
    e.Meets (e.step w event) w event id := by
  cases event with
  | input bytes => exact meets_input h
  | connected j socket => exact meets_connected h
  | dialFailed j => exact meets_dialFailed h
  | flow event =>
    refine meets_spared ?_ (fun l _ _ => (sentFrom_absorb ..).trans rfl) False.elim
    exact congrArg (LinkTable.link? · id) (spares_absorb ..).links
  | carried => exact meets_carry
  | sweep => exact meets_sweep h
  | start => exact meets_start
  | stop => exact meets_stop

end Steps

section Runs

variable {e : Engine}

lemma Coherent.step (h : e.Coherent) (w : Surroundings) (event : Event)
    (hdials : (e.step w event).dials < UInt64.size) : (e.step w event).Coherent := by
  have hrelinks := e.relinks_step w h.links.labelled event
  have hmeets := meets_step h w event
  have hdialing := e.dialing_step w event
  generalize e.step w event = e' at *
  constructor
  case toSound => exact h.of_relinks hrelinks
  case dials => exact hdials
  case consistent =>
    obtain ⟨-, requests, -, hlinks, hd⟩ := hrelinks
    rw [hlinks, hd]
    exact h.consistent.run requests (hd ▸ hdials)
  case orderly =>
    intro id l hl
    obtain ⟨sent, hfate, -⟩ := hmeets id
    rw [hl] at hfate
    exact hfate.orderly fun m hm => h.orderly id m hm
  case once =>
    refine hdialing.once (fun hnext => ?_) h.once
    obtain ⟨l, hl, -⟩ := h.known _ hnext
    rw [h.nextId_unknown] at hl
    cases hl
  case known =>
    intro id hid
    obtain ⟨sent, hfate, -⟩ := hmeets id
    rcases hdialing.comes id hid with hold | ⟨rfl, hknown⟩
    · obtain ⟨l, hl, hsocket⟩ := h.known id hold
      rw [hl] at hfate
      obtain ⟨l', hl', hkeeps⟩ := hfate.known
      refine ⟨l', hl', (hkeeps hsocket).resolve_right ?_⟩
      -- A connection that has completed is no longer being opened.
      rintro ⟨hcompletes, -⟩
      rw [hdialing.done id hcompletes] at hid
      exact (List.Nodup.not_mem_erase h.once) hid
    · obtain ⟨l, hl⟩ := Option.isSome_iff_exists.mp hknown
      rw [h.nextId_unknown, hl] at hfate
      exact ⟨l, hl, hfate.socket_of_new⟩

lemma dials_le_run (h : e.links.Labelled) (events : List (Surroundings × Event)) :
    e.dials ≤ (e.run events).dials := by
  obtain ⟨-, requests, -, -, hd⟩ := e.relinks_run h events
  omega

/-- The first event of a run leads to a coherent engine if the identities last for all of it. -/
lemma Coherent.step_of_run (h : e.Coherent) {w : Surroundings} {event : Event}
    {rest : List (Surroundings × Event)}
    (hdials : (e.run ((w, event) :: rest)).dials < UInt64.size) : (e.step w event).Coherent := by
  have hlabelled := (e.relinks_step w h.links.labelled event).labelled h.links.labelled
  exact h.step w event (Nat.lt_of_le_of_lt (dials_le_run hlabelled rest) hdials)

/-- A run leads from a coherent engine to a coherent one while the identities last, and what
every event preserves of coherent engines holds after it. -/
lemma Coherent.run_induction {P : Engine → Prop} (h : e.Coherent) (hp : P e)
    (hstep : ∀ (d : Engine) (w : Surroundings) (event : Event), d.Coherent → P d →
      P (d.step w event))
    (events : List (Surroundings × Event)) (hdials : (e.run events).dials < UInt64.size) :
    (e.run events).Coherent ∧ P (e.run events) := by
  induction events generalizing e with
  | nil => exact ⟨h, hp⟩
  | cons x rest ih => exact ih (h.step_of_run hdials) (hstep e x.1 x.2 h hp) hdials

lemma Coherent.run (h : e.Coherent) {events : List (Surroundings × Event)}
    (hdials : (e.run events).dials < UInt64.size) : (e.run events).Coherent :=
  (h.run_induction (P := fun _ => True) trivial (fun _ _ _ _ _ => trivial) events hdials).1

/-- The identities last for the first part of a run if they last for all of it. -/
lemma dials_lt_of_append (h : e.links.Labelled) {before after : List (Surroundings × Event)}
    (hdials : (e.run (before ++ after)).dials < UInt64.size) :
    (e.run before).dials < UInt64.size := by
  rw [run_append] at hdials
  exact Nat.lt_of_le_of_lt (dials_le_run ((e.relinks_run h before).labelled h) after) hdials

/-- A link that is known stays known, and what every fate preserves of it holds after a run. -/
lemma link_persists {id : LinkId} {P : Link → Prop}
    (hP : ∀ {d d' : Engine} {w : Surroundings} {event : Event} {m m' : Link}
      {sent : List (FrameCause × Flags)}, Fate d d' w id event (some m) (some m') sent →
      P m → P m')
    (h : e.Coherent) {l : Link} (hl : e.links.link? id = some l) (hp : P l)
    {events : List (Surroundings × Event)} (hdials : (e.run events).dials < UInt64.size) :
    ∃ m, (e.run events).links.link? id = some m ∧ P m := by
  refine (h.run_induction (P := fun d => ∃ m, d.links.link? id = some m ∧ P m) ⟨l, hl, hp⟩ ?_
    events hdials).2
  rintro d w event hd ⟨m, hm, hpm⟩
  obtain ⟨sent, hfate, -⟩ := meets_step hd w event id
  rw [hm] at hfate
  obtain ⟨m', hm', -⟩ := hfate.known
  rw [hm'] at hfate
  exact ⟨m', hm', hP hfate hpm⟩

/-- An engine is coherent in every run that dials fewer than 2⁶⁴ times. -/
theorem coherent_run {c : Config} {runtime : Bool} (hbuild : build c runtime = .ok e)
    (events : List (Surroundings × Event)) (hdials : (e.run events).dials < UInt64.size) :
    (e.run events).Coherent := by
  obtain ⟨-, rfl⟩ := build_eq_ok hbuild
  exact (coherent_ofConfig c).run hdials

end Runs

end Engine

end GuestNat
