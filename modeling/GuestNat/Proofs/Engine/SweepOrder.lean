import Mathlib.Data.List.Nodup
import GuestNat.Proofs.Engine.Flows
import GuestNat.Proofs.Engine.Sweeping

/-!
# The order of a sweep

A sweep visits one live link after another, but no visit depends on those before it: together they
come to what can be told from the links as they are at the beginning (`sweepLinks_eq`). From this
form it can be seen that the order of the visits matters only for the order in which sockets are
closed (`settled_perm`).
-/
namespace GuestNat

/-- Whether a sweep takes a live link out of the table. -/
def Link.leaves (c : Config) (now : Nat) (l : Link) : Bool := (l.swept c now).closed

/-- The closing of the socket that a sweep takes from a link. -/
def Link.released (c : Config) (now : Nat) (l : Link) : List Effect :=
  if c.verdict now l = .keep then [] else l.socket.toList.map .hangUp

namespace Engine

structure Holds (e : Engine) (l : Link) : Prop where
  link : e.links.link? l.id = some l
  tuple : e.links.byTuple.get? l.key = some l.id
  isOpen : l.closed = false

/-- The engine after visits to live links. -/
def settled (e : Engine) (now : Nat) (ls : List Link) : Engine :=
  let gone := ls.filter (·.leaves e.config now)
  { e with
    links := { e.links with
      links := ls.foldl (fun t l => t.modify l.id fun _ => l.swept e.config now) e.links.links
      byTuple := (gone.map Link.key).foldl Table.erase e.links.byTuple
      byPort := (gone.map Link.port).foldl Table.erase e.links.byPort }
    counters := e.counters.linksWereClosed gone.length
    outbox := e.outbox ++ ls.flatMap (·.released e.config now) }

section Visits

variable {e : Engine} {l : Link} (now : Nat)

lemma closeLink_eq (hl : e.links.link? l.id = some l)
    (hk : e.links.byTuple.get? l.key = some l.id) :
    e.closeLink l.id =
      (({ e with links := e.links.drop l }.hangUp [l]).count (·.linksWereClosed 1), true) := by
  simp only [closeLink, LinkTable.closeLink?_eq hl hk]

lemma Holds.modify_eq (h : e.Holds l) (f : Link → Link) :
    e.links.links.modify l.id f = e.links.links.modify l.id fun _ => f l := by
  apply Table.modify_congr
  intro m hm
  rw [Option.some.inj (hm.symm.trans h.link)]

lemma settled_of_leaves (hleaves : l.leaves e.config now = true) :
    e.settled now [l] =
      { e with
        links := { e.links with
          links := e.links.links.modify l.id fun _ => l.swept e.config now
          byTuple := e.links.byTuple.erase l.key
          byPort := e.links.byPort.erase l.port }
        counters := e.counters.linksWereClosed 1
        outbox := e.outbox ++ l.released e.config now } := by
  simp [settled, hleaves]

lemma settled_of_stays (hstays : l.leaves e.config now = false) :
    e.settled now [l] =
      { e with
        links := e.links.modify l.id fun _ => l.swept e.config now
        outbox := e.outbox ++ l.released e.config now } := by
  simp [settled, hstays, Counters.linksWereClosed, LinkTable.modify]

lemma hangUp_singleton (e : Engine) (l : Link) :
    e.hangUp [l] = { e with outbox := e.outbox ++ l.socket.toList.map .hangUp } := by
  unfold hangUp
  cases hl : l.socket <;> simp [hl]

lemma sweepLink_of_keep (h : e.Holds l) (hverdict : e.config.verdict now l = .keep) :
    e.sweepLink now l.id = (e.settled now [l], l.leaves e.config now) := by
  have hswept : l.swept e.config now = l := by simp only [Link.swept, hverdict]
  have hstays : l.leaves e.config now = false := by rw [Link.leaves, hswept, h.isOpen]
  have hlinks := LinkTable.modify_eq_self (f := fun _ => l) h.link rfl
  rw [settled_of_stays now hstays, hstays, hswept, hlinks]
  simp [sweepLink, h.link, Link.released, hverdict]

lemma sweepLink_of_close (h : e.Holds l) (hverdict : e.config.verdict now l = .close) :
    e.sweepLink now l.id = (e.settled now [l], l.leaves e.config now) := by
  have hswept : l.swept e.config now = l.dispose := by simp only [Link.swept, hverdict]
  have hleaves : l.leaves e.config now = true := by rw [Link.leaves, hswept]; rfl
  rw [settled_of_leaves now hleaves, hleaves, hswept, ← h.modify_eq]
  simp [sweepLink, h.link, hverdict, closeLink_eq h.link h.tuple, hangUp_singleton,
    LinkTable.drop, count, Link.released]

/-- A visit that finalizes a link begins its grace period, unless that has begun, and disposes of
the link at the end of it. -/
lemma sweepLink_of_finalize (h : e.Holds l) (hverdict : e.config.verdict now l = .finalize) :
    e.sweepLink now l.id = (e.settled now [l], l.leaves e.config now) := by
  unfold sweepLink
  simp only [h.link, hverdict, finalize]
  by_cases hover : e.config.maxFinal ≤ now - l.finalSince.getD now
  · have hswept : l.swept e.config now = (l.beginFinal now).detach.dispose := by
      simp only [Link.swept, hverdict, hover, if_true]
    have hleaves : l.leaves e.config now = true := by rw [Link.leaves, hswept]; rfl
    have hfinal : ((e.modifyLink l.id fun _ => (l.beginFinal now).detach).hangUp [l]).links.link?
        l.id = some (l.beginFinal now).detach :=
      (link?_modifyLink h.link _ l.id).trans (if_pos rfl)
    have hclose := closeLink_eq (l := (l.beginFinal now).detach) hfinal h.tuple
    rw [settled_of_leaves now hleaves, hleaves, hswept]
    simp only [hover, decide_true, if_true]
    refine hclose.trans ?_
    simp [hangUp_singleton, modifyLink, LinkTable.modify, LinkTable.drop, count, Link.released,
      hverdict]
    exact ⟨⟨Table.modify_modify .., rfl, rfl⟩, rfl⟩
  · have hswept : l.swept e.config now = (l.beginFinal now).detach := by
      simp only [Link.swept, hverdict, hover, if_false]
    have hstays : l.leaves e.config now = false := by
      rw [Link.leaves, hswept]
      exact h.isOpen
    rw [settled_of_stays now hstays, hstays, hswept]
    simp [hover, hangUp_singleton, modifyLink, Link.released, hverdict]

lemma sweepLink_eq (h : e.Holds l) :
    e.sweepLink now l.id = (e.settled now [l], l.leaves e.config now) := by
  cases hverdict : e.config.verdict now l with
  | keep => exact sweepLink_of_keep now h hverdict
  | close => exact sweepLink_of_close now h hverdict
  | finalize => exact sweepLink_of_finalize now h hverdict

lemma Holds.settled (h : e.Holds l) {m : Link} (hm : e.Holds m) (hne : m.id ≠ l.id) :
    (e.settled now [l]).Holds m where
  link := by
    have hlink : (e.settled now [l]).links.link? m.id =
        (e.links.links.modify l.id fun _ => l.swept e.config now).get? m.id := rfl
    rw [hlink, Table.get?_modify, if_neg hne]
    exact hm.link
  tuple := by
    have hkey : m.key ≠ l.key := by
      intro he
      have htuple := hm.tuple
      rw [he, h.tuple] at htuple
      exact hne (Option.some.inj htuple).symm
    cases hleaves : l.leaves e.config now with
    | false => rw [settled_of_stays now hleaves]; exact hm.tuple
    | true =>
      rw [settled_of_leaves now hleaves]
      exact (Table.get?_erase ..).trans ((if_neg hkey).trans hm.tuple)
  isOpen := hm.isOpen

/-- Visits to links one after another are visits to them all. -/
lemma settled_settled (ls ms : List Link) :
    (e.settled now ls).settled now ms = e.settled now (ls ++ ms) := by
  simp only [settled, List.filter_append, List.map_append, List.foldl_append, List.length_append,
    List.flatMap_append, List.append_assoc, Counters.linksWereClosed, UInt64.ofNat_add,
    UInt64.add_assoc]

/-- A sweep makes of the live links what it makes of each as it is at the beginning. -/
theorem sweepLinks_eq {ls : List Link} (hids : (ls.map (·.id)).Nodup) (h : ∀ l ∈ ls, e.Holds l) :
    e.sweepLinks now (ls.map (·.id)) =
      (e.settled now ls, (ls.filter (·.leaves e.config now)).length) := by
  unfold sweepLinks
  suffices hfold : ∀ n : Nat, (ls.map (·.id)).foldl (fun (x : Engine × Nat) id =>
      ((x.1.sweepLink now id).1, if (x.1.sweepLink now id).2 then x.2 + 1 else x.2)) (e, n) =
      (e.settled now ls, n + (ls.filter (·.leaves e.config now)).length) by
    simpa using hfold 0
  induction ls generalizing e with
  | nil => intro n; simp [settled, Counters.linksWereClosed]
  | cons l rest ih =>
    intro n
    rw [List.map_cons, List.nodup_cons] at hids
    rw [List.forall_mem_cons] at h
    have hrest : ∀ m ∈ rest, (e.settled now [l]).Holds m := by
      intro m hm
      refine h.1.settled now (h.2 m hm) fun he => hids.1 ?_
      rw [← he]
      exact List.mem_map_of_mem hm
    have htail := ih hids.2 hrest
    rw [List.map_cons, List.foldl_cons, sweepLink_eq now h.1, htail, settled_settled,
      List.singleton_append]
    have hconfig : (e.settled now [l]).config = e.config := rfl
    rw [hconfig, List.filter_cons]
    cases l.leaves e.config now with
    | false => rfl
    | true => simp only [if_true, List.length_cons, Nat.add_assoc, Nat.add_comm 1]

/-- The order of the visits matters for nothing but the order in which sockets are closed. -/
theorem settled_perm {ls ms : List Link} (hperm : ls.Perm ms) (hids : (ls.map (·.id)).Nodup) :
    (e.settled now ls).flush.1 = (e.settled now ms).flush.1 ∧
      (e.settled now ls).outbox.Perm (e.settled now ms).outbox := by
  have hgone := hperm.filter (·.leaves e.config now)
  have hlinks : ls.foldl (fun t l => t.modify l.id fun _ => l.swept e.config now) e.links.links =
      ms.foldl (fun t l => t.modify l.id fun _ => l.swept e.config now) e.links.links := by
    refine hperm.foldl_eq' (fun l hl m hm t => ?_) _
    by_cases hlm : l = m
    · rw [hlm]
    · exact t.modify_comm (fun hid => hlm (List.inj_on_of_nodup_map hids hl hm hid)) ..
  have htuple := (hgone.map Link.key).foldl_eq' (f := Table.erase)
    (fun j _ k _ t => t.erase_comm j k) e.links.byTuple
  have hport := (hgone.map Link.port).foldl_eq' (f := Table.erase)
    (fun j _ k _ t => t.erase_comm j k) e.links.byPort
  constructor
  · simp only [settled, flush, hlinks, htuple, hport, hgone.length_eq]
  · exact (hperm.flatMap_right _).append_left e.outbox

end Visits

section Sweeps

variable {e : Engine} (w : Surroundings) (now : Nat)

/-- The state and the report of a sweep, from the live links that it visits. -/
theorem sweepIn_eq {ls : List Link} (hids : (ls.map (·.id)).Nodup) (h : ∀ l ∈ ls, e.Holds l) :
    sweepIn (ls.map (·.id)) e w now =
      ({ e.settled now ls with
          reassembler := (e.reassembler.sweep now).1
          flows := (e.flows.evict now e.config.udpInactivity).1
          counters := (e.settled now ls).counters.groupsWereExpired (e.reassembler.sweep now).2
          outbox := (e.settled now ls).outbox ++
            (e.flows.evict now e.config.udpInactivity).2.2.map .flow },
        { links := (ls.filter (·.leaves e.config now)).length
          groups := (e.reassembler.sweep now).2
          flows := (e.flows.evict now e.config.udpInactivity).2.1 }) := by
  unfold sweepIn
  rw [sweepLinks_eq now hids h]
  exact congrArg (Prod.mk · _) (absorb_closeEffects _ w _)

end Sweeps

end Engine

end GuestNat
