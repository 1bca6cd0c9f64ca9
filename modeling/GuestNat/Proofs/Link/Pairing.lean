import GuestNat.Proofs.Link.Requests

/-!
# A live link is found from both sides

As long as links are closed as themselves, a link that is live by its 4-tuple is live by
its port. Nothing is counted here: the identities may even be used again, and what a
table finds by a 4-tuple it still finds by the port.
-/
namespace GuestNat.LinkTable

/-- A link that is live by its 4-tuple is live by its port. -/
def PortFollows (t : LinkTable) : Prop :=
  ∀ id l, t.link? id = some l → t.byTuple.get? l.key = some id → t.byPort.get? l.port = some id

/-- A live link is found by its 4-tuple and by its port, which is at the gateway. -/
structure Paired (t : LinkTable) : Prop where
  labelled : t.Labelled
  standIn : ∀ id l, t.link? id = some l → l.standIn.ip = t.gateway
  port : t.PortFollows

namespace PortFollows

variable {t : LinkTable}

lemma modify (h : t.PortFollows) (j : LinkId) {f : Link → Link}
    (hf : ∀ l, (f l).ends = l.ends) : (t.modify j f).PortFollows := by
  intro id l hl hk
  obtain ⟨m, hm, rfl | rfl⟩ := link?_modify_eq_some hl
  · rw [Link.key_eq_of_ends (hf m)] at hk
    rw [Link.port_eq_of_ends (hf m)]
    exact h id m hm hk
  · exact h id l hm hk

lemma create (h : t.PortFollows) {key : LinkKey} {port : UInt16} (now : Nat)
    (hport : t.byPort.get? port = none) : (t.create key port now).PortFollows := by
  intro id l hl hk
  rw [byPort_create]
  rcases link?_create_eq_some hl with ⟨rfl, rfl⟩ | ⟨hid, hl⟩
  · exact if_pos rfl
  · rw [byTuple_create] at hk
    split at hk
    · exact absurd (Option.some.inj hk).symm hid
    · have hp := h id l hl hk
      have hne : l.port ≠ port := by
        intro he
        rw [he, hport] at hp
        cases hp
      rw [if_neg hne]
      exact hp

lemma drop (h : t.PortFollows) {l : Link} (hl : t.link? l.id = some l)
    (hk : t.byTuple.get? l.key = some l.id) : (t.drop l).PortFollows := by
  intro id m hm hkm
  have hp : t.byPort.get? m.port = some id := by
    rw [byTuple_drop] at hkm
    split at hkm
    · cases hkm
    · exact h.modify l.id Link.ends_dispose id m hm hkm
  have hne : m.port ≠ l.port := by
    intro he
    rw [he, h l.id l hl hk] at hp
    obtain rfl := Option.some.inj hp
    rw [link?_drop, if_pos rfl, hl] at hm
    obtain rfl := Option.some.inj hm
    rw [byTuple_drop, Link.key_dispose, if_pos rfl] at hkm
    cases hkm
  rw [byPort_drop, if_neg hne]
  exact hp

end PortFollows

namespace Paired

variable {t : LinkTable}

lemma of_findTuple (h : t.Paired) {l : Link} (hf : t.findTuple l.key = some l) :
    t.link? l.id = some l ∧ t.byTuple.get? l.key = some l.id := by
  obtain ⟨id, hk, hl⟩ := Option.bind_eq_some_iff.mp hf
  obtain rfl := h.labelled id l hl
  exact ⟨hl, hk⟩

lemma findPort_eq (h : t.Paired) {l : Link} (hf : t.findTuple l.key = some l) :
    t.findPort l.port = some l := by
  obtain ⟨hl, hk⟩ := h.of_findTuple hf
  rw [findPort, h.port l.id l hl hk]
  exact hl

lemma standIn_inj (h : t.Paired) {l m : Link} (hl : t.findTuple l.key = some l)
    (hm : t.findTuple m.key = some m) (he : l.standIn = m.standIn) : l = m := by
  have hp := h.findPort_eq hl
  rw [Link.port, he, ← Link.port, h.findPort_eq hm] at hp
  exact (Option.some.inj hp).symm

lemma ofRange (gateway : Ipv4) (first last : UInt16) :
    (LinkTable.ofRange gateway first last).Paired where
  labelled := by intro id l h; cases h
  standIn := by intro id l h; cases h
  port := by intro id l h; cases h

lemma port_obey (h : t.Paired) {gateway : Ipv4} {r : LinkRequest} (hr : r.Admissible gateway) :
    (t.obey r).PortFollows := by
  have ho := t.obeys r
  generalize t.obey r = t', t.creates r = c at ho ⊢
  cases ho with
  | nothing | full => exact h.port
  | inPlace hf => exact h.port.modify _ hf.ends
  | @created key reserved now port ports _ hports =>
    have hport : t.byPort.get? port = none := by
      simpa [Table.contains] using PortPool.allocate_free hports
    exact PortFollows.create (t := { t with ports }) h.port now hport
  | closed => exact hr.elim
  | @closedAsItself id l hl hkey =>
    obtain rfl := h.labelled id l hl
    exact h.port.drop hl hkey
  | cleared =>
    intro id l _ hk
    cases hk

lemma obey (h : t.Paired) {gateway : Ipv4} {r : LinkRequest} (hr : r.Admissible gateway) :
    (t.obey r).Paired where
  labelled := h.labelled.obey r
  port := h.port_obey hr
  standIn := by
    intro id l hl
    rw [(t.obey_range r).1]
    rcases link?_obey hl with ⟨m, hm, he⟩ | ⟨_, _, _, _, -, -, rfl⟩
    · rw [(Link.ends_eq_iff.mp he).2.2.2]
      exact h.standIn id m hm
    · rfl

lemma run (h : t.Paired) {gateway : Ipv4} {requests : List LinkRequest}
    (hr : ∀ r ∈ requests, r.Admissible gateway) : (t.run requests).Paired := by
  induction requests generalizing t with
  | nil => exact h
  | cons r rest ih =>
    rw [List.forall_mem_cons] at hr
    exact ih (h.obey hr.1) hr.2

end Paired

end GuestNat.LinkTable
