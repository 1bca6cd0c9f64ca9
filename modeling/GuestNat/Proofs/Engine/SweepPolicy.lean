import GuestNat.Proofs.Engine.SweepOrder
import GuestNat.Proofs.Flow.Eviction

/-!
# The policy of a sweep

Which links a sweep removes depends on their stage, on how long they have been idle, and on the
grace period of those that are at their end (`Config.Removes`). What a sweep makes of every link,
of the fragments and of the flows follows from it, in whatever order the links are visited
(`sweep_follows_policy`).
-/
namespace GuestNat

namespace Config

/-- A link is at its end: it is closing, or established and has been idle for too long. -/
def Ends (c : Config) (now : Nat) (l : Link) : Prop :=
  l.stage = .closing ∨ (l.stage = .connected ∧ c.maxInactivity < l.idle now)

/-- A sweep removes a link: it is closed, or has been idle for too long in its handshake, or is at
its end and without a grace period, or with one that is over. -/
def Removes (c : Config) (now : Nat) (l : Link) : Prop :=
  l.stage = .closed ∨ (l.stage = .opening ∧ c.maxSyn < l.idle now) ∨
    c.Ends now l ∧ (c.subnet = true ∨ c.maxFinal ≤ now - l.finalSince.getD now)

instance (c : Config) (now : Nat) (l : Link) : Decidable (c.Ends now l) :=
  inferInstanceAs (Decidable (_ ∨ _))

instance (c : Config) (now : Nat) (l : Link) : Decidable (c.Removes now l) :=
  inferInstanceAs (Decidable (_ ∨ _))

end Config

namespace Link

variable {c : Config} {now : Nat} {l : Link}

lemma verdict_of_ends (hends : c.Ends now l) :
    c.verdict now l = if c.subnet then .close else .finalize := by
  rcases hends with hstage | ⟨hstage, hidle⟩
  · simp only [Config.verdict, hstage]
  · simp only [Config.verdict, hstage, hidle, if_true]

lemma verdict_eq_keep_iff :
    c.verdict now l = .keep ↔ ¬c.Removes now l ∧ ¬c.Ends now l := by
  unfold Config.verdict Config.Removes Config.Ends
  cases l.stage with
  | closed => simp
  | opening => simp
  | connected => by_cases hidle : c.maxInactivity < l.idle now <;> cases c.subnet <;> simp [hidle]
  | closing => cases c.subnet <;> simp

/-- A link that is at its end and stays loses its socket, and its grace period has begun. -/
lemma swept_of_ends (hends : c.Ends now l) (hstays : ¬c.Removes now l) :
    l.swept c now = { l with socket := none, finalSince := some (l.finalSince.getD now) } := by
  have hgrace : ¬(c.subnet = true ∨ c.maxFinal ≤ now - l.finalSince.getD now) :=
    fun hover => hstays (.inr (.inr ⟨hends, hover⟩))
  rw [not_or] at hgrace
  simp only [swept, verdict_of_ends hends, hgrace.1, hgrace.2, if_false]
  rfl

lemma swept_of_spared (hends : ¬c.Ends now l) (hstays : ¬c.Removes now l) :
    l.swept c now = l := by
  simp only [swept, verdict_eq_keep_iff.mpr ⟨hstays, hends⟩]

lemma leaves_iff (hopen : l.closed = false) : l.leaves c now = true ↔ c.Removes now l := by
  unfold leaves swept Config.verdict Config.Removes Config.Ends
  cases l.stage with
  | closed => simp [dispose]
  | opening => by_cases hidle : c.maxSyn < l.idle now <;> simp [hidle, hopen, dispose]
  | connected =>
    by_cases hidle : c.maxInactivity < l.idle now <;> cases c.subnet <;>
      by_cases hover : c.maxFinal ≤ now - l.finalSince.getD now <;>
      simp [hidle, hover, hopen, dispose, detach, beginFinal]
  | closing =>
    cases c.subnet <;> by_cases hover : c.maxFinal ≤ now - l.finalSince.getD now <;>
      simp [hover, hopen, dispose, detach, beginFinal]

lemma hangUp_mem_released_iff {socket : SocketId} :
    .hangUp socket ∈ l.released c now ↔
      l.socket = some socket ∧ (c.Removes now l ∨ c.Ends now l) := by
  unfold released
  by_cases hkeep : c.verdict now l = .keep
  · obtain ⟨hstays, hends⟩ := verdict_eq_keep_iff.mp hkeep
    simp [hkeep, hstays, hends]
  · have hconcerned : c.Removes now l ∨ c.Ends now l := by
      by_contra h
      exact hkeep (verdict_eq_keep_iff.mpr (not_or.mp h))
    simp [hkeep, hconcerned]

end Link

namespace Engine

/-- What a sweep at a time is to make of an engine, and to report. -/
structure Ages (e : Engine) (now : Nat) (s : Engine) (report : SweepReport) : Prop where
  removed : ∀ l, e.links.findTuple l.key = some l → e.config.Removes now l →
    s.links.findTuple l.key = none
  /-- A link that is at its end and stays is without its socket, and its grace period began when
  a sweep first found it there. -/
  ending : ∀ l, e.links.findTuple l.key = some l → ¬e.config.Removes now l → e.config.Ends now l →
    s.links.findTuple l.key =
      some { l with socket := none, finalSince := some (l.finalSince.getD now) }
  spared : ∀ l, e.links.findTuple l.key = some l → ¬e.config.Removes now l →
    ¬e.config.Ends now l → s.links.findTuple l.key = some l
  /-- By its port a link is found, or not found any more, as by its 4-tuple. -/
  ports : ∀ l, e.links.findTuple l.key = some l →
    s.links.findPort l.port = s.links.findTuple l.key
  absent : (∀ key, e.links.findTuple key = none → s.links.findTuple key = none) ∧
    ∀ port, e.links.findPort port = none → s.links.findPort port = none
  /-- The sockets that are closed are those of links that are removed or at their end. -/
  sockets : ∃ effects, s.outbox = e.outbox ++ effects ∧ ∀ socket, .hangUp socket ∈ effects ↔
    ∃ l, e.links.findTuple l.key = some l ∧ l.socket = some socket ∧
      (e.config.Removes now l ∨ e.config.Ends now l)
  groups : ∀ key, s.reassembler.groups.get? key =
    (e.reassembler.groups.get? key).filter fun g => now < g.deadline
  flows : ∀ source, s.flows.find? source =
    (e.flows.find? source).filter fun f => f.idle now ≤ e.config.udpInactivity
  report_links : report.links + s.links.size = e.links.size
  report_groups : report.groups + s.reassembler.pending = e.reassembler.pending
  report_flows : report.flows + s.flows.size = e.flows.size

section Links

variable {e : Engine} {l m : Link} {now : Nat} {ls : List Link}

lemma Coherent.holds_iff (h : e.Coherent) : e.Holds l ↔ e.links.findTuple l.key = some l := by
  constructor
  · exact fun hl => h.findTuple_eq hl.link hl.isOpen
  · intro hl
    obtain ⟨hlink, hopen, -⟩ := h.of_findTuple hl
    exact ⟨hlink, (h.consistent.of_findTuple hl).1, hopen⟩

lemma Coherent.exists_visited (h : e.Coherent) {order : List LinkId}
    (horder : order.Perm e.links.live) :
    ∃ ls : List Link, order = ls.map (·.id) ∧ (ls.map (·.id)).Nodup ∧ ∀ l, l ∈ ls ↔ e.Holds l := by
  have hknown : ∀ id ∈ order, ∃ l, e.links.link? id = some l ∧ e.Holds l ∧ l.id = id := by
    intro id hid
    obtain ⟨k, hk⟩ := LinkTable.mem_live_iff.mp (horder.mem_iff.mp hid)
    obtain ⟨l, hl, rfl, -⟩ := h.consistent.tuple k id hk
    obtain rfl := h.id_eq hl
    exact ⟨l, hl, ⟨hl, hk, (h.consistent.open_iff l.id l hl).mpr hk⟩, rfl⟩
  have hmap : (order.filterMap e.links.link?).map (·.id) = order := by
    rw [List.map_filterMap]
    refine (List.filterMap_congr fun id hid => ?_).trans List.filterMap_some
    obtain ⟨l, hl, -, rfl⟩ := hknown id hid
    rw [hl, Option.map_some]
  refine ⟨order.filterMap e.links.link?, hmap.symm, ?_, fun l => ?_⟩
  · rw [hmap]
    exact horder.nodup_iff.mpr h.consistent.live_nodup
  · rw [List.mem_filterMap]
    constructor
    · rintro ⟨id, hid, hl⟩
      obtain ⟨m, hm, hholds, -⟩ := hknown id hid
      rwa [Option.some.inj (hl.symm.trans hm)]
    · intro hl
      exact ⟨l.id, horder.mem_iff.mpr (LinkTable.mem_live_iff.mpr ⟨l.key, hl.tuple⟩), hl.link⟩

namespace Holds

lemma eq_of_key (hl : e.Holds l) (hm : e.Holds m) (hkey : m.key = l.key) : m = l := by
  have hid : m.id = l.id := by
    have htuple := hm.tuple
    rw [hkey, hl.tuple] at htuple
    exact (Option.some.inj htuple).symm
  have hlink := hm.link
  rw [hid, hl.link] at hlink
  exact (Option.some.inj hlink).symm

lemma eq_of_port (h : e.Coherent) (hl : e.Holds l) (hm : e.Holds m) (hport : m.port = l.port) :
    m = l := by
  have hpl := h.findPort_eq hl.link hl.isOpen
  rw [← hport, h.findPort_eq hm.link hm.isOpen] at hpl
  exact Option.some.inj hpl

end Holds

lemma mem_map_leaving_iff (now : Nat) {κ : Type*} {f : Link → κ} (hls : ∀ l, l ∈ ls ↔ e.Holds l)
    (hl : e.Holds l) (hf : ∀ m, e.Holds m → f m = f l → m = l) :
    f l ∈ (ls.filter (·.leaves e.config now)).map f ↔ e.config.Removes now l := by
  rw [← Link.leaves_iff hl.isOpen, List.mem_map]
  constructor
  · rintro ⟨m, hm, he⟩
    obtain ⟨hmem, hleaves⟩ := List.mem_filter.mp hm
    rwa [hf m ((hls m).mp hmem) he] at hleaves
  · exact fun hleaves => ⟨l, List.mem_filter.mpr ⟨(hls l).mpr hl, hleaves⟩, rfl⟩

lemma find_settled (h : e.Coherent) (now : Nat) (hids : (ls.map (·.id)).Nodup)
    (hls : ∀ l, l ∈ ls ↔ e.Holds l) (hl : e.Holds l) :
    let found := if e.config.Removes now l then none else some (l.swept e.config now)
    (e.settled now ls).links.findTuple l.key = found ∧
      (e.settled now ls).links.findPort l.port = found := by
  have hport : e.links.byPort.get? l.port = some l.id := h.links.port l.id l hl.link hl.tuple
  have hlink : (e.settled now ls).links.link? l.id = some (l.swept e.config now) := by
    have hholds : ∀ m ∈ ls, e.Holds m := fun m hm => (hls m).mp hm
    have hsweep := link?_sweepLinks now h.links.labelled hids
      (List.mem_map_of_mem ((hls l).mpr hl)) hl.link hl.tuple
    rwa [sweepLinks_eq now hids hholds] at hsweep
  have hkeys := mem_map_leaving_iff now hls hl fun m hm he => hl.eq_of_key hm he
  have hports := mem_map_leaving_iff now hls hl fun m hm he => hl.eq_of_port h hm he
  have htuple' : (e.settled now ls).links.byTuple.get? l.key =
      if e.config.Removes now l then none else some l.id :=
    (Table.get?_foldl_erase ..).trans (by simp only [hkeys, hl.tuple])
  have hport' : (e.settled now ls).links.byPort.get? l.port =
      if e.config.Removes now l then none else some l.id :=
    (Table.get?_foldl_erase ..).trans (by simp only [hports, hport])
  rw [LinkTable.findTuple, LinkTable.findPort, htuple', hport']
  by_cases hremoves : e.config.Removes now l <;> simp [hremoves, hlink]

lemma find_settled_eq_none (h : e.Coherent) :
    (∀ key, e.links.findTuple key = none → (e.settled now ls).links.findTuple key = none) ∧
      ∀ port, e.links.findPort port = none → (e.settled now ls).links.findPort port = none := by
  constructor
  · intro key hkey
    have hnone : (e.settled now ls).links.byTuple.get? key = none :=
      (Table.get?_foldl_erase ..).trans (by rw [h.byTuple_eq_none hkey, ite_self])
    rw [LinkTable.findTuple, hnone]
    rfl
  · intro port hport
    have hnone : (e.settled now ls).links.byPort.get? port = none :=
      (Table.get?_foldl_erase ..).trans (by rw [h.byPort_eq_none_iff.mpr hport, ite_self])
    rw [LinkTable.findPort, hnone]
    rfl

/-- Each link that leaves takes its entry along. -/
lemma size_settled (hids : (ls.map (·.id)).Nodup) (hls : ∀ l, l ∈ ls ↔ e.Holds l) :
    (ls.filter (·.leaves e.config now)).length + (e.settled now ls).links.size = e.links.size := by
  have hholds : ∀ l ∈ ls.filter (·.leaves e.config now), e.Holds l :=
    fun l hl => (hls l).mp (List.mem_of_mem_filter hl)
  have hkeys : ((ls.filter (·.leaves e.config now)).map Link.key).Nodup :=
    ((hids.of_map _).filter _).map_on fun l hl m hm he => (hholds m hm).eq_of_key (hholds l hl) he
  have hsize := Table.size_foldl_erase (t := e.links.byTuple) hkeys fun k hk => by
    obtain ⟨l, hl, rfl⟩ := List.mem_map.mp hk
    rw [(hholds l hl).tuple]
    rfl
  rw [List.length_map] at hsize
  exact (Nat.add_comm ..).trans hsize

end Links

section Sweeps

variable {e : Engine} (w : Surroundings) (now : Nat)

/-- Whatever the order of its visits, a sweep ages an engine. -/
theorem Coherent.ages_sweepIn (h : e.Coherent) (hflows : e.flows.Sound) {order : List LinkId}
    (horder : order.Perm e.links.live) :
    e.Ages now (sweepIn order e w now).1 (sweepIn order e w now).2 := by
  obtain ⟨ls, rfl, hids, hls⟩ := h.exists_visited horder
  rw [sweepIn_eq w now hids fun l hl => (hls l).mp hl]
  have hfind := fun (l : Link) (hl : e.links.findTuple l.key = some l) =>
    find_settled h now hids hls (h.holds_iff.mpr hl)
  constructor
  case removed =>
    intro l hl hremoves
    exact (hfind l hl).1.trans (if_pos hremoves)
  case ending =>
    intro l hl hstays hends
    rw [← Link.swept_of_ends hends hstays]
    exact (hfind l hl).1.trans (if_neg hstays)
  case spared =>
    intro l hl hstays hends
    have hswept := (hfind l hl).1.trans (if_neg hstays)
    rwa [Link.swept_of_spared hends hstays] at hswept
  case ports => exact fun l hl => (hfind l hl).2.trans (hfind l hl).1.symm
  case absent => exact find_settled_eq_none h
  case sockets =>
    refine ⟨ls.flatMap (·.released e.config now) ++
      (e.flows.evict now e.config.udpInactivity).2.2.map .flow, List.append_assoc .., ?_⟩
    intro socket
    simp only [List.mem_append, List.mem_flatMap, List.mem_map, reduceCtorEq, and_false,
      exists_false, or_false, Link.hangUp_mem_released_iff, hls, h.holds_iff]
  case groups =>
    intro key
    exact Table.get?_filter ..
  case flows => exact FlowTable.find?_evict hflows
  case report_links => exact size_settled hids hls
  case report_groups => exact Nat.sub_add_cancel (List.length_filter_le ..)
  case report_flows => exact FlowTable.size_evict ..

/-- The order of its visits matters for nothing but the order in which a sweep closes sockets. -/
theorem Coherent.sweepIn_perm (h : e.Coherent) {order : List LinkId}
    (horder : order.Perm e.links.live) :
    (sweepIn order e w now).1.flush.1 = (e.sweep w now).1.flush.1 ∧
      (sweepIn order e w now).1.outbox.Perm (e.sweep w now).1.outbox ∧
      (sweepIn order e w now).2 = (e.sweep w now).2 := by
  obtain ⟨ls, rfl, hids, hls⟩ := h.exists_visited horder
  obtain ⟨ms, hlive, hids', hms⟩ := h.exists_visited (.refl e.links.live)
  have hperm : ls.Perm ms :=
    (List.perm_ext_iff_of_nodup (hids.of_map _) (hids'.of_map _)).mpr fun l =>
      (hls l).trans (hms l).symm
  obtain ⟨hstate, houtbox⟩ := settled_perm (e := e) now hperm hids
  have hlinks : (e.settled now ls).links = (e.settled now ms).links :=
    (congrArg Engine.links hstate :)
  have hcounters : (e.settled now ls).counters = (e.settled now ms).counters :=
    (congrArg Engine.counters hstate :)
  rw [sweep, hlive, sweepIn_eq w now hids fun l hl => (hls l).mp hl,
    sweepIn_eq w now hids' fun l hl => (hms l).mp hl]
  refine ⟨?_, houtbox.append_right _, ?_⟩
  · simp only [flush, hlinks, hcounters]
    rfl
  · rw [(hperm.filter _).length_eq]

end Sweeps

/-- In every state that a run leads to, as long as fewer than 2⁶⁴ links were begun, a sweep at any
time ages the engine as the policy says, in whatever order it visits the links; the order makes no
difference to the state and the report, nor to what is asked for, but for the order of that. -/
theorem sweep_follows_policy {c : Config} {e₀ : Engine} (hbuild : build c true = .ok e₀)
    (events : List (Surroundings × Event)) (hdials : (e₀.run events).dials < UInt64.size) :
    let e := e₀.run events
    e.config = c ∧
    ∀ (w : Surroundings) (now : Nat) (order : List LinkId), order.Perm e.links.live →
      e.Ages now (sweepIn order e w now).1 (sweepIn order e w now).2 ∧
      (sweepIn order e w now).1.flush.1 = (e.sweep w now).1.flush.1 ∧
      (sweepIn order e w now).1.outbox.Perm (e.sweep w now).1.outbox ∧
      (sweepIn order e w now).2 = (e.sweep w now).2 := by
  intro e
  have hcoherent : e.Coherent := coherent_run hbuild events hdials
  refine ⟨(sound_run hbuild events).2, fun w now order horder => ?_⟩
  exact ⟨hcoherent.ages_sweepIn w now (flows_sound_run hbuild events) horder,
    hcoherent.sweepIn_perm w now horder⟩

/-- Of three links one is established and idle, one was never answered, and one is new; there are
a fragment without the rest and an idle flow besides. The sweep visits the newest link first. -/
theorem sweep_follows_policy_mixed :
    let syn : Segment :=
      { source := ⟨⟨10, 0, 0, 5⟩, 51000⟩, destination := ⟨⟨93, 184, 216, 34⟩, 80⟩
        flags := { syn := true }, sequence := 100 }
    let accept : Segment :=
      { source := ⟨⟨10, 0, 0, 1⟩, 7070⟩, destination := ⟨⟨10, 0, 0, 2⟩, 49152⟩
        flags := { syn := true, ack := true }, sequence := 5000, acknowledgment := 101 }
    let ack : Segment := { syn with flags := { ack := true }, sequence := 101 }
    let unanswered : Segment := { syn with source := ⟨⟨10, 0, 0, 5⟩, 51001⟩ }
    let new : Segment := { syn with source := ⟨⟨10, 0, 0, 5⟩, 51002⟩ }
    let query : Datagram := ⟨⟨⟨10, 0, 0, 5⟩, 5000⟩, ⟨⟨8, 8, 8, 8⟩, 53⟩, [1, 2, 3]⟩
    let events : List (Surroundings × Event) :=
      [({}, .input syn.toFrame.toBytes), ({}, .connected 1 7), ({}, .input accept.toFrame.toBytes),
        ({}, .input ack.toFrame.toBytes), ({}, .input unanswered.toFrame.toBytes),
        ({}, .input query.toFrame.toBytes),
        ({}, .input { query.toFrame with moreFragments := true, payload := [0, 0] }.toBytes),
        ({ now := 399000 }, .input new.toFrame.toBytes)]
    let e := (ofConfig {}).run events
    let s := (sweepIn [3, 1, 2] e {} 400000).1
    build {} true = .ok (ofConfig {}) ∧ e.dials < UInt64.size ∧ e.links.live = [1, 2, 3] ∧
      s.links.findTuple (unanswered.source, unanswered.destination) = none ∧
      (∃ l, e.links.findTuple (syn.source, syn.destination) = some l ∧ l.socket = some 7 ∧
        s.links.findTuple (syn.source, syn.destination) =
          some { l with socket := none, finalSince := some 400000 }) ∧
      s.links.findTuple (new.source, new.destination) =
        e.links.findTuple (new.source, new.destination) ∧
      e.reassembler.pending = 1 ∧ e.flows.size = 1 ∧
      (sweepIn [3, 1, 2] e {} 400000).2 = ⟨1, 1, 1⟩ ∧ (e.sweep {} 400000).2 = ⟨1, 1, 1⟩ := by
  intro syn accept ack unanswered new query events e s
  have hbuild : build {} true = .ok (ofConfig {}) := rfl
  have hdials : e.dials < UInt64.size := by decide +kernel
  have hlive : e.links.live = [1, 2, 3] := by decide +kernel
  have hperm : [3, 1, 2].Perm e.links.live := by
    rw [hlive]
    decide
  obtain ⟨-, hsweep⟩ := sweep_follows_policy hbuild events hdials
  have hages : e.Ages 400000 s (sweepIn [3, 1, 2] e {} 400000).2 :=
    (hsweep {} 400000 [3, 1, 2] hperm).1
  have hreport : (sweepIn [3, 1, 2] e {} 400000).2 = (e.sweep {} 400000).2 :=
    (hsweep {} 400000 [3, 1, 2] hperm).2.2.2
  obtain ⟨idle, hidle, hkey, hsocket, hsince, hends, hstays⟩ :
      ∃ l, e.links.findTuple (syn.source, syn.destination) = some l ∧
        l.key = (syn.source, syn.destination) ∧ l.socket = some 7 ∧ l.finalSince = none ∧
        e.config.Ends 400000 l ∧ ¬e.config.Removes 400000 l :=
    ⟨(e.links.link? 1).getD default, by decide +kernel⟩
  obtain ⟨opening, hopening, hkey₂, hremoves⟩ :
      ∃ l, e.links.findTuple (unanswered.source, unanswered.destination) = some l ∧
        l.key = (unanswered.source, unanswered.destination) ∧ e.config.Removes 400000 l :=
    ⟨(e.links.link? 2).getD default, by decide +kernel⟩
  obtain ⟨fresh, hfresh, hkey₃, hspares⟩ :
      ∃ l, e.links.findTuple (new.source, new.destination) = some l ∧
        l.key = (new.source, new.destination) ∧
        ¬e.config.Removes 400000 l ∧ ¬e.config.Ends 400000 l :=
    ⟨(e.links.link? 3).getD default, by decide +kernel⟩
  have hending := hages.ending idle (hkey ▸ hidle) hstays hends
  have hremoved := hages.removed opening (hkey₂ ▸ hopening) hremoves
  have hspared := hages.spared fresh (hkey₃ ▸ hfresh) hspares.1 hspares.2
  have hreported : (sweepIn [3, 1, 2] e {} 400000).2 = ⟨1, 1, 1⟩ := by decide +kernel
  rw [hkey, hsince, Option.getD_none] at hending
  rw [hkey₂] at hremoved
  rw [hkey₃] at hspared
  exact ⟨hbuild, hdials, hlive, hremoved, ⟨idle, hidle, hsocket, hending⟩,
    hspared.trans hfresh.symm, by decide +kernel, by decide +kernel, hreported,
    hreport.symm.trans hreported⟩

end Engine

end GuestNat
