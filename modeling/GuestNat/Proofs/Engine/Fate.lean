import GuestNat.Proofs.Engine.Coherence
import GuestNat.Proofs.Engine.Dialing
import GuestNat.Proofs.Engine.Sent
import GuestNat.Proofs.Engine.Translation

/-!
# What an event makes of a link

An event concerns few links, and each in one of a few ways. `Fate` lists them, each with what
is written from the stand-in of the link meanwhile. Here the segments from the virtual
interface are shown to fit the list (`meets_input`), one lemma for each kind.
-/
namespace GuestNat

/-- Whether a new link may take the place of this one. -/
def Link.Finished (l : Link) : Prop := l.state.finished = true ∨ l.stage = .closed

instance (l : Link) : Decidable l.Finished :=
  inferInstanceAs (Decidable (l.state.finished = true ∨ l.stage = .closed))

lemma Link.Orderly.heard {l : Link} (h : l.Orderly) (side : Side) (s : Segment) (now : Nat) :
    (Engine.heard l side s now).Orderly := ⟨h.source, h.opens, h.socket, h.closed⟩

namespace Engine

/-- The octets carry a segment, as the engine reads them. -/
def Reads (e : Engine) (bytes : Bytes) (s : Segment) : Prop :=
  Segment.ofBytes? e.config.verify bytes = some s

instance (e : Engine) (bytes : Bytes) (s : Segment) : Decidable (e.Reads bytes s) :=
  inferInstanceAs (Decidable (Segment.ofBytes? e.config.verify bytes = some s))

/-- A segment of the guest for an open link. -/
structure Hears (e : Engine) (bytes : Bytes) (l : Link) (s : Segment) : Prop where
  reads : e.Reads bytes s
  key : (s.source, s.destination) = l.key
  isOpen : l.closed = false

/-- What an event makes of the link that is known by an identity, if one is, and what is written
from its stand-in meanwhile. -/
inductive Fate (e e' : Engine) (w : Surroundings) (id : LinkId) :
    Event → Option Link → Option Link → List (FrameCause × Flags) → Prop
  /-- The event concerns another link or none, or comes too late. -/
  | spared {event : Event} {o : Option Link}
      (hlate : event.Completes id → id ∈ e.dialing → ∀ l ∈ o, l.closed = true) :
      Fate e e' w id event o o []
  /-- A segment of the host side is passed on to the guest. -/
  | answered {bytes : Bytes} {l : Link} {r : Segment} (hr : e.Reads bytes r)
      (hsource : r.source = e.config.listener) (hdestination : r.destination = l.standIn) :
      Fate e e' w id (.input bytes) (some l) (some (heard l .host r w.now)) []
  /-- A segment of the guest is passed on to the host side. -/
  | forwarded {bytes : Bytes} {l : Link} {s : Segment} (hs : e.Hears bytes l s)
      (hopens : s.flags.opens = false) (hpending : l.pending = none) :
      Fate e e' w id (.input bytes) (some l) (some (heard l .guest s w.now))
        (passes w .translated s.flags)
  /-- A segment of the guest goes no further while the request waits. -/
  | held {bytes : Bytes} {l : Link} {s : Segment} (hs : e.Hears bytes l s)
      (hopens : s.flags.opens = false) (hpending : l.pending.isSome = true)
      (hreset : s.flags.rst = false) :
      Fate e e' w id (.input bytes) (some l) (some (heard l .guest s w.now)) []
  /-- A reset of the guest cancels the request. -/
  | cancelled {bytes : Bytes} {l : Link} {s : Segment} (hs : e.Hears bytes l s)
      (hopens : s.flags.opens = false) (hpending : l.pending.isSome = true)
      (hreset : s.flags.rst = true) :
      Fate e e' w id (.input bytes) (some l)
        (some { heard l .guest s w.now with pending := none }) []
  /-- The request is repeated and passed on. -/
  | repeated {bytes : Bytes} {l : Link} {s : Segment} (hs : e.Hears bytes l s)
      (hopens : s.flags.opens = true) (hstays : ¬l.Finished) (hsocket : l.socket.isSome = true) :
      Fate e e' w id (.input bytes) (some l) (some (heard l .guest s w.now))
        (passes w .translated s.flags)
  /-- The request is repeated and waits. -/
  | awaits {bytes : Bytes} {l : Link} {s : Segment} (hs : e.Hears bytes l s)
      (hopens : s.flags.opens = true) (hstays : ¬l.Finished) (hsocket : l.socket = none) :
      Fate e e' w id (.input bytes) (some l)
        (some { heard l .guest s w.now with pending := some (e.translate l s) }) []
  | opened {bytes : Bytes} {s : Segment} {port : UInt16} (hs : e.Reads bytes s)
      (hopens : s.flags.opens = true) (hid : id = e.links.nextId) (hdialing : id ∈ e'.dialing) :
      Fate e e' w id (.input bytes) none
        (some
          { (e.links.fresh (s.source, s.destination) port w.now).observe .guest s with
            pending :=
              some (e.translate (e.links.fresh (s.source, s.destination) port w.now) s) }) []
  /-- Its connection is open, and the request that waits goes out. -/
  | attached {l : Link} {socket : SocketId} (hdialing : id ∈ e.dialing)
      (hopen : l.closed = false) :
      Fate e e' w id (.connected id socket) (some l)
        (some { l with socket := some socket, pending := none })
        (l.pending.elim [] fun syn => passes w .translated syn.flags)
  /-- A sweep takes its socket away and begins its grace period, unless that has begun. -/
  | finalized {l : Link} (hsubnet : e.config.subnet = false) :
      Fate e e' w id .sweep (some l) (some (l.beginFinal w.now).detach) []
  | carried {l : Link} {sent received : UInt64} :
      Fate e e' w id (.carried id sent received) (some l)
        (some ((l.carry sent received).touch w.now)) []
  /-- The link leaves the table, perhaps at the end of its grace period. -/
  | closed {event : Event} {l : Link} (since : Option Nat) :
      Fate e e' w id event (some l) (some { l with finalSince := since }.dispose) []

/-- An event makes of the link of an identity what `Fate` says, and nothing else is written from
its stand-in unless the link was closed before. -/
def Meets (e e' : Engine) (w : Surroundings) (event : Event) (id : LinkId) : Prop :=
  ∃ sent, Fate e e' w id event (e.links.link? id) (e'.links.link? id) sent ∧
    ∀ l, e'.links.link? id = some l → (∀ m ∈ e.links.link? id, m.closed = false) →
      e'.sentFrom l.standIn = e.sentFrom l.standIn ++ sent

lemma link?_modifyLink {e : Engine} {id : LinkId} {l : Link} (hl : e.links.link? id = some l)
    (f : Link → Link) (j : LinkId) :
    (e.modifyLink id f).links.link? j = if j = id then some (f l) else e.links.link? j := by
  rw [modifyLink, LinkTable.link?_modify]
  split
  · rename_i hj
    rw [hj, hl]
    rfl
  · rfl

namespace Fate

variable {e e' : Engine} {w : Surroundings} {id : LinkId} {event : Event}
variable {o o' : Option Link} {l l' : Link} {sent : List (FrameCause × Flags)}

lemma orderly (hfate : Fate e e' w id event o (some l') sent) (ho : ∀ l ∈ o, l.Orderly) :
    l'.Orderly := by
  cases hfate with
  | spared => exact ho l' rfl
  | answered => exact (ho _ rfl).heard ..
  | forwarded => exact (ho _ rfl).heard ..
  | held => exact (ho _ rfl).heard ..
  | cancelled hs => exact .of_open rfl hs.isOpen
  | repeated => exact (ho _ rfl).heard ..
  | awaits hs hopens _ hsocket => exact .of_waiting rfl rfl hopens hsocket hs.isOpen
  | opened hs hopens => exact .of_waiting rfl rfl hopens rfl rfl
  | attached _ hopen => exact .of_open rfl hopen
  | finalized =>
    have h := ho _ rfl
    exact ⟨h.source, h.opens, fun _ => rfl, fun hc => ⟨(h.closed hc).1, rfl⟩⟩
  | carried =>
    have h := ho _ rfl
    exact ⟨h.source, h.opens, h.socket, h.closed⟩
  | closed => exact .dispose _

/-- A link that is known stays known, and gets a socket only from its own connection. -/
lemma known (hfate : Fate e e' w id event (some l) o' sent) :
    ∃ l', o' = some l' ∧
      (l.socket = none → l'.socket = none ∨ (event.Completes id ∧ id ∈ e.dialing)) := by
  cases hfate with
  | attached hdialing => exact ⟨_, rfl, fun _ => .inr ⟨rfl, hdialing⟩⟩
  | finalized => exact ⟨_, rfl, fun _ => .inl rfl⟩
  | closed => exact ⟨_, rfl, fun _ => .inl rfl⟩
  | _ => exact ⟨_, rfl, .inl⟩

lemma standIn_eq (hfate : Fate e e' w id event (some l) (some l') sent) :
    l'.standIn = l.standIn := by
  cases hfate <;> rfl

lemma key_eq (hfate : Fate e e' w id event (some l) (some l') sent) : l'.key = l.key := by
  cases hfate <;> rfl

lemma socket_of_new (hfate : Fate e e' w id event none (some l') sent) : l'.socket = none := by
  cases hfate
  rfl

end Fate

section Steps

variable {e e' : Engine} {w : Surroundings} {id : LinkId} {event : Event} {bytes : Bytes}

/-- A link is spared if it is as before and nothing was written from its stand-in. -/
lemma meets_spared (hlink : e'.links.link? id = e.links.link? id)
    (hsent : ∀ l, e.links.link? id = some l → l.closed = false →
      e'.sentFrom l.standIn = e.sentFrom l.standIn)
    (hlate : event.Completes id → id ∈ e.dialing →
      ∀ l ∈ e.links.link? id, l.closed = true) : e.Meets e' w event id := by
  refine ⟨[], ?_, ?_⟩
  · rw [hlink]
    exact .spared hlate
  · intro l hl hopen
    rw [hlink] at hl
    rw [hsent l hl (hopen l hl), List.append_nil]

lemma meets_known {l l' : Link} {sent : List (FrameCause × Flags)}
    (hl : e.links.link? id = some l) (hl' : e'.links.link? id = some l')
    (hfate : Fate e e' w id event (some l) (some l') sent)
    (hsent : l.closed = false → e'.sentFrom l.standIn = e.sentFrom l.standIn ++ sent) :
    e.Meets e' w event id := by
  refine ⟨sent, by rwa [hl, hl'], ?_⟩
  intro m hm hopen
  obtain rfl := Option.some.inj (hl'.symm.trans hm)
  rw [hfate.standIn_eq]
  exact hsent (hopen l hl)

lemma meets_changed {m m' : Link} {sent : List (FrameCause × Flags)}
    (hm : e.links.link? m.id = some m)
    (hlinks : ∀ j, e'.links.link? j = if j = m.id then some m' else e.links.link? j)
    (hfate : Fate e e' w m.id event (some m) (some m') sent)
    (hself : e'.sentFrom m.standIn = e.sentFrom m.standIn ++ sent)
    (hother : ∀ j l, j ≠ m.id → e.links.link? j = some l → l.closed = false →
      e'.sentFrom l.standIn = e.sentFrom l.standIn)
    (hcompletes : ∀ j, event.Completes j → j = m.id) : e.Meets e' w event id := by
  by_cases hid : id = m.id
  · subst hid
    refine meets_known hm ?_ hfate fun _ => hself
    rw [hlinks, if_pos rfl]
  · refine meets_spared ?_ (fun l hl hopen => hother id l hid hl hopen) ?_
    · rw [hlinks, if_neg hid]
    · exact fun hc => absurd (hcompletes id hc) hid

variable (f : Counters → Counters)

lemma meets_processReply (h : e.Coherent) {r : Segment} (hr : e.Reads bytes r)
    (hsource : r.source = e.config.listener) (hip : r.destination.ip = e.config.gateway) :
    e.Meets ((e.count f).processReply w r) w (.input bytes) id := by
  unfold processReply
  rw [links_count]
  split
  · rename_i hnone
    refine meets_spared ?_ ?_ False.elim
    · rw [(spares_sendReset ..).links, links_count]
    · intro l hl hopen
      rw [sentFrom_sendReset, sentFrom_count]
      intro hd
      have hport := h.findPort_eq hl hopen
      rw [Link.port, ← hd, hnone] at hport
      cases hport
  · rename_i m hm
    obtain ⟨hlink, -, hport⟩ := h.of_findPort hm
    have hcounted : (e.count f).links.link? m.id = some m := hlink
    have hd : r.destination = m.standIn := h.eq_standIn hlink hip hport.symm
    -- What goes to the guest comes from outside of the gateway.
    have hsent : ∀ j l, e.links.link? j = some l →
        (((e.count f).modifyLink m.id fun l => (l.observe .host r).touch w.now).write w .translated
          (untranslate m r).toFrame).sentFrom l.standIn = e.sentFrom l.standIn := by
      intro j l hl
      rw [sentFrom_write_of_ne, sentFrom_modifyLink, sentFrom_count]
      exact h.standIn_ne_of_ip hl (h.avoids m.id m hlink)
    refine meets_changed hlink (fun j => ?_) (.answered hr hsource hd) ?_
      (fun j l _ hl _ => hsent j l hl) fun _ => False.elim
    · rw [links_write]
      exact link?_modifyLink hcounted _ j
    · rw [hsent m.id m hlink, List.append_nil]

lemma meets_processForward (h : e.Coherent) {s : Segment} (hs : e.Reads bytes s)
    (hopens : s.flags.opens = false) (hip : s.destination.ip ≠ e.config.gateway) :
    e.Meets ((e.count f).processForward w s) w (.input bytes) id := by
  unfold processForward
  rw [links_count]
  split
  · refine meets_spared ?_ ?_ False.elim
    · rw [(spares_sendReset ..).links, links_count]
    · intro l hl _
      rw [sentFrom_sendReset _ _ _ (h.standIn_ne_of_ip hl hip), sentFrom_count]
  · rename_i m hm
    obtain ⟨hlink, hopen, hkey⟩ := h.of_findTuple hm
    have hcounted : (e.count f).links.link? m.id = some m := hlink
    have hhears : e.Hears bytes m s := ⟨hs, hkey.symm, hopen⟩
    dsimp only
    split_ifs with hpending hreset
    · refine meets_changed hlink (fun j => ?_) (.cancelled hhears hopens hpending hreset)
        (List.append_nil _).symm (fun _ _ _ _ _ => rfl) fun _ => False.elim
      have hheard := link?_modifyLink hcounted fun l => (l.observe .guest s).touch w.now
      rw [link?_modifyLink ((hheard m.id).trans (if_pos rfl)), hheard]
      split <;> rfl
    · refine meets_changed hlink (fun j => ?_)
        (.held hhears hopens hpending (Bool.eq_false_iff.mpr hreset)) (List.append_nil _).symm
        (fun _ _ _ _ _ => rfl) fun _ => False.elim
      exact link?_modifyLink hcounted _ j
    · refine meets_changed hlink (fun j => ?_) (.forwarded hhears hopens (by simpa using hpending))
        (sentFrom_write_self _ w .translated (translate _ m s)) ?_ fun _ => False.elim
      · rw [links_write]
        exact link?_modifyLink hcounted _ j
      · intro j l hne hl hopen'
        exact sentFrom_write_of_ne _ w _ (h.standIn_ne hl hopen' hlink hopen hne)

/-- A request on a link that stays is repeated. -/
lemma processSyn_of_stays (h : e.Coherent) {m : Link} (hm : e.links.link? m.id = some m)
    {s : Segment} (hs : e.Hears bytes m s) (hstays : ¬m.Finished) :
    (e.count f).processSyn w s =
      ({ e.count f with links := e.links.modify m.id (·.touch w.now) } : Engine).repeatSyn w
        (m.touch w.now) s := by
  have hk := (h.consistent.open_iff m.id m hm).mp hs.isOpen
  have hdrop : (e.count f).dropFinished m.key = e.count f := by
    simp only [dropFinished, links_count, h.findTuple_eq hm hs.isOpen]
    exact if_neg hstays
  have hallocate : e.links.allocate m.key w.reserved w.now =
      (e.links.modify m.id (·.touch w.now), .ok (.existing m.id)) := by
    simp only [LinkTable.allocate, hk]
  have htouched : (e.links.modify m.id (·.touch w.now)).link? m.id = some (m.touch w.now) := by
    rw [LinkTable.link?_modify, if_pos rfl, hm]
    rfl
  simp only [processSyn, hs.key, hdrop, links_count, hallocate, htouched]

lemma link?_processSyn_of_stays (h : e.Coherent) {m : Link} (hm : e.links.link? m.id = some m)
    {s : Segment} (hs : e.Hears bytes m s) (hstays : ¬m.Finished) (j : LinkId) :
    ((e.count f).processSyn w s).links.link? j =
      if j = m.id then
        some (if m.socket.isSome then heard m .guest s w.now
          else { heard m .guest s w.now with pending := some (e.translate m s) })
      else e.links.link? j := by
  have htouched := link?_modifyLink (e := e.count f) hm (·.touch w.now)
  have hheard : ∀ i, (((e.count f).modifyLink m.id (·.touch w.now)).modifyLink m.id
      (·.observe .guest s)).links.link? i =
      if i = m.id then some (heard m .guest s w.now) else e.links.link? i := by
    intro i
    rw [link?_modifyLink ((htouched m.id).trans (if_pos rfl)), htouched]
    split <;> rfl
  rw [processSyn_of_stays f h hm hs hstays]
  change (if m.socket.isSome then _ else _ : Engine).links.link? j = _
  split_ifs with hsocket hj hj
  · rw [links_write]
    exact (hheard j).trans (if_pos hj)
  · rw [links_write]
    exact (hheard j).trans (if_neg hj)
  · refine (link?_modifyLink ((hheard m.id).trans (if_pos rfl)) _ j).trans ?_
    rw [if_pos hj]
    rfl
  · refine (link?_modifyLink ((hheard m.id).trans (if_pos rfl)) _ j).trans ?_
    rw [if_neg hj]
    exact (hheard j).trans (if_neg hj)

/-- A request on a link that stays is passed on if the link has a socket. -/
lemma sentFrom_processSyn_of_stays (h : e.Coherent) {m : Link}
    (hm : e.links.link? m.id = some m) {s : Segment} (hs : e.Hears bytes m s)
    (hstays : ¬m.Finished) (a : Endpoint) :
    ((e.count f).processSyn w s).sentFrom a = e.sentFrom a ++
      if m.socket.isSome = true ∧ m.standIn = a then passes w .translated s.flags else [] := by
  rw [processSyn_of_stays f h hm hs hstays]
  change (if m.socket.isSome then _ else _ : Engine).sentFrom a = _
  split_ifs with hsocket ha ha
  · rw [← ha.2]
    exact sentFrom_write_self _ w .translated (translate _ m s)
  · rw [List.append_nil]
    exact sentFrom_write_of_ne _ w _ fun he => ha ⟨hsocket, he⟩
  · exact absurd ha.1 hsocket
  · exact (List.append_nil _).symm

lemma meets_repeatSyn (h : e.Coherent) {m : Link} (hm : e.links.link? m.id = some m)
    {s : Segment} (hs : e.Hears bytes m s) (hopens : s.flags.opens = true)
    (hstays : ¬m.Finished) :
    e.Meets ((e.count f).processSyn w s) w (.input bytes) id := by
  have hlinks := link?_processSyn_of_stays (w := w) f h hm hs hstays
  have hsent := sentFrom_processSyn_of_stays (w := w) f h hm hs hstays
  have hother : ∀ j l, j ≠ m.id → e.links.link? j = some l → l.closed = false →
      ((e.count f).processSyn w s).sentFrom l.standIn = e.sentFrom l.standIn := by
    intro j l hne hl hopen
    rw [hsent, if_neg, List.append_nil]
    exact fun ha => h.standIn_ne hl hopen hm hs.isOpen hne ha.2
  by_cases hsocket : m.socket.isSome = true
  · simp only [hsocket, if_true, true_and] at hlinks hsent
    refine meets_changed hm hlinks (.repeated hs hopens hstays hsocket) ?_
      hother fun _ => False.elim
    rw [hsent, if_pos rfl]
  · simp only [hsocket] at hlinks hsent
    exact meets_changed hm hlinks (.awaits hs hopens hstays (by simpa using hsocket)) (hsent _)
      hother fun _ => False.elim

/-- The engine after the finished link of a 4-tuple gave way to a new one, if there was one. -/
structure GivesWay (e d : Engine) (key : LinkKey) : Prop where
  config : d.config = e.config
  sent : ∀ a, d.sentFrom a = e.sentFrom a
  links : d.links = e.links ∨ ∃ l, e.links.link? l.id = some l ∧ d.links = e.links.drop l
  free : d.links.byTuple.get? key = none

lemma GivesWay.fresh {d : Engine} {key : LinkKey} (h : e.GivesWay d key) (ports : PortPool)
    (key' : LinkKey) (port : UInt16) (now : Nat) :
    ({ d.links with ports } : LinkTable).fresh key' port now = e.links.fresh key' port now := by
  obtain hsame | ⟨m, -, hdrop⟩ := h.links
  · rw [hsame]
    rfl
  · rw [hdrop]
    rfl

lemma links_dropFinished (h : e.Coherent) {key : LinkKey}
    (hfinished : ∀ l, e.links.findTuple key = some l → l.Finished) :
    (e.links.byTuple.get? key = none ∧ ((e.count f).dropFinished key).links = e.links) ∨
      ∃ l, e.links.findTuple key = some l ∧
        ((e.count f).dropFinished key).links = e.links.drop l := by
  unfold dropFinished
  rw [links_count]
  cases hl : e.links.findTuple key with
  | none => exact .inl ⟨h.byTuple_eq_none hl, rfl⟩
  | some l =>
    obtain ⟨hlink, hopen, -⟩ := h.of_findTuple hl
    have hclose := LinkTable.closeLink?_eq hlink ((h.consistent.open_iff l.id l hlink).mp hopen)
    refine .inr ⟨l, rfl, (congrArg links (if_pos (hfinished l hl))).trans ?_⟩
    simp only [closeLink, links_count, hclose]
    rfl

/-- A 4-tuple is free once its finished link gave way, and no other is touched. -/
lemma byTuple_dropFinished (h : e.Coherent) {key : LinkKey}
    (hfinished : ∀ l, e.links.findTuple key = some l → l.Finished) (k : LinkKey) :
    ((e.count f).dropFinished key).links.byTuple.get? k =
      if k = key then none else e.links.byTuple.get? k := by
  obtain ⟨hnone, hlinks⟩ | ⟨l, hl, hlinks⟩ := links_dropFinished f h hfinished
  · rw [hlinks]
    split
    · rename_i hk
      rw [hk, hnone]
    · rfl
  · obtain ⟨-, -, rfl⟩ := h.of_findTuple hl
    rw [hlinks, LinkTable.byTuple_drop]

lemma givesWay_dropFinished (h : e.Coherent) {key : LinkKey}
    (hfinished : ∀ l, e.links.findTuple key = some l → l.Finished) :
    e.GivesWay ((e.count f).dropFinished key) key where
  config := ((e.count f).relinks_dropFinished key).config
  sent _ := sentFrom_dropFinished ..
  links := (links_dropFinished f h hfinished).imp And.right fun ⟨l, hl, hlinks⟩ =>
    ⟨l, (h.of_findTuple hl).1, hlinks⟩
  free := (byTuple_dropFinished f h hfinished key).trans (if_pos rfl)

/-- What becomes of a link that is known while a new one takes its place or fails to. -/
lemma meets_givesWay {d : Engine} {key : LinkKey} (h : e.GivesWay d key)
    (hlink : e'.links.link? id = d.links.link? id)
    (hsent : ∀ l, e.links.link? id = some l → l.closed = false →
      e'.sentFrom l.standIn = e.sentFrom l.standIn) : e.Meets e' w (.input bytes) id := by
  obtain hsame | ⟨m, hm, hdrop⟩ := h.links
  · rw [hsame] at hlink
    exact meets_spared hlink hsent False.elim
  · rw [hdrop, LinkTable.link?_drop] at hlink
    by_cases hid : id = m.id
    · subst hid
      rw [if_pos rfl, hm] at hlink
      refine meets_known hm hlink (.closed m.finalSince) fun hopen => ?_
      rw [hsent m hm hopen, List.append_nil]
    · rw [if_neg hid] at hlink
      exact meets_spared hlink hsent False.elim

lemma meets_openLink (h : e.Coherent) {s : Segment} (hs : e.Reads bytes s)
    (hopens : s.flags.opens = true) {d d' : Engine} {key : LinkKey} (hd : e.GivesWay d key)
    {port : UInt16} {l : Link}
    (hl : l = e.links.fresh (s.source, s.destination) port w.now) (hconfig : d'.config = e.config)
    (hlinks : ∀ j, d'.links.link? j = if j = l.id then some l else d.links.link? j)
    (hsent : ∀ a, d'.sentFrom a = e.sentFrom a) :
    e.Meets (d'.openLink l s) w (.input bytes) id := by
  have hnew : ∀ j, (d'.openLink l s).links.link? j =
      if j = l.id then some { l.observe .guest s with pending := some (e.translate l s) }
      else d.links.link? j := by
    intro j
    change (d'.modifyLink l.id _).links.link? j = _
    rw [link?_modifyLink ((hlinks l.id).trans (if_pos rfl)), hlinks]
    simp only [translate, ← hconfig]
    split <;> rfl
  have hsent' : ∀ a, (d'.openLink l s).sentFrom a = e.sentFrom a := fun a =>
    (sentFrom_emit _ _ rfl).trans (hsent a)
  subst hl
  by_cases hid : id = (e.links.fresh (s.source, s.destination) port w.now).id
  · have hnone : e.links.link? id = none := hid ▸ h.nextId_unknown
    refine ⟨[], ?_, fun m _ _ => (hsent' m.standIn).trans (List.append_nil _).symm⟩
    rw [hnone, hnew, if_pos hid]
    refine .opened hs hopens hid ?_
    exact List.mem_append_right _ (List.mem_singleton.mpr hid)
  · refine meets_givesWay hd ?_ fun m _ _ => hsent' m.standIn
    rw [hnew, if_neg hid]

lemma meets_processSyn (h : e.Coherent) {s : Segment} (hs : e.Reads bytes s)
    (hopens : s.flags.opens = true) (hip : s.destination.ip ≠ e.config.gateway) :
    e.Meets ((e.count f).processSyn w s) w (.input bytes) id := by
  by_cases hstays : ∃ m, e.links.findTuple (s.source, s.destination) = some m ∧ ¬m.Finished
  · obtain ⟨m, hm, hstays⟩ := hstays
    obtain ⟨hlink, hopen, hkey⟩ := h.of_findTuple hm
    exact meets_repeatSyn f h hlink ⟨hs, hkey.symm, hopen⟩ hopens hstays
  -- Otherwise the 4-tuple is free by the time that a link is asked for.
  simp only [not_exists, not_and, not_not] at hstays
  have hd := givesWay_dropFinished f h hstays
  have ho := (e.count f).requestOutcome_processSyn w s
  generalize (e.count f).dropFinished (s.source, s.destination) = d,
    (e.count f).processSyn w s = e' at hd ho ⊢
  cases ho with
  | repeated hkey | unknown hkey =>
    rw [hd.free] at hkey
    cases hkey
  | refused =>
    refine meets_givesWay hd ?_ fun l hl _ => ?_
    · rw [(spares_sendReset ..).links]
      rfl
    · rw [sentFrom_sendReset _ _ _ (h.standIn_ne_of_ip hl hip)]
      exact (sentFrom_emit _ _ rfl).trans (hd.sent _)
  | @opened port ports =>
    have hcreated := LinkTable.link?_create (t := { d.links with ports }) (s.source, s.destination)
      port w.now
    exact meets_openLink h hs hopens hd (hd.fresh ports _ port w.now) hd.config hcreated
      fun a => (sentFrom_emit _ _ rfl).trans (hd.sent a)

/-- Octets that carry a segment are counted, and the segment is processed. -/
lemma input_eq_of_reads {s : Segment} (h : e.Reads bytes s) (w : Surroundings) :
    e.input w bytes = (e.count (·.record .inbound .tcp bytes.length)).processTcp w s := by
  obtain ⟨g, hg, hs⟩ := Option.bind_eq_some_iff.mp h
  have hp := (Segment.ofFrame?_eq_some hs).1
  simp only [input, hg, processFrame, hp, config_count, hs]

lemma input_of_reads {s : Segment} (h : e.Reads bytes s) (w : Surroundings) :
    ∃ f, e.input w bytes = (e.count f).processTcp w s := ⟨_, input_eq_of_reads h w⟩

/-- Any other octets are counted, and what they carry is dropped or processed as a datagram. -/
lemma dispatches_of_not_reads (h : ∀ s, ¬e.Reads bytes s) (w : Surroundings) :
    ∃ f, Dispatches w (e.count f) (e.input w bytes) := by
  unfold input
  cases hf : Frame.ofBytes? e.config.verify bytes with
  | none => exact ⟨id, .dropped e⟩
  | some f =>
    refine ⟨(·.record .inbound f.protocol bytes.length), ?_⟩
    dsimp only [processFrame]
    split
    · have hs : Segment.ofFrame? e.config.verify f = none :=
        Option.eq_none_iff_forall_not_mem.mpr fun s hs =>
          h s (Option.bind_eq_some_iff.mpr ⟨f, hf, hs⟩)
      simp only [config_count, hs]
      exact .dropped _
    · exact dispatches_processDatagram ..
    · exact dispatches_processDatagram ..
    · exact .dropped _

/-- Any other octets leave the links alone and make the engine write no segment. -/
lemma input_of_not_reads (h : ∀ s, ¬e.Reads bytes s) (w : Surroundings) :
    (e.input w bytes).links = e.links ∧ ∀ a, (e.input w bytes).sentFrom a = e.sentFrom a := by
  obtain ⟨f, hdispatches⟩ := dispatches_of_not_reads h w
  exact ⟨hdispatches.spares.links, hdispatches.sentFrom⟩

lemma meets_input (h : e.Coherent) : e.Meets (e.input w bytes) w (.input bytes) id := by
  by_cases hreads : ∃ s, e.Reads bytes s
  · obtain ⟨s, hs⟩ := hreads
    obtain ⟨f, heq⟩ := input_of_reads hs w
    rw [heq]
    unfold processTcp
    rw [config_count]
    split_ifs with hip hsource hopens
    · exact meets_processReply f h hs hsource hip
    · exact meets_spared rfl (fun _ _ _ => rfl) False.elim
    · exact meets_processSyn f h hs hopens hip
    · exact meets_processForward f h hs (Bool.eq_false_iff.mpr hopens) hip
  · obtain ⟨hlinks, hsent⟩ := input_of_not_reads (not_exists.mp hreads) w
    exact meets_spared (by rw [hlinks]) (fun l _ _ => hsent l.standIn) False.elim

end Steps

end Engine

end GuestNat
