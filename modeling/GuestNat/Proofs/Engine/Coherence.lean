import GuestNat.Proofs.Engine.Links

/-!
# Coherent engines

`Coherent` gathers what holds of an engine between events: of its links, of the requests that
wait on them, and of the connections that are being opened for them. The links are told apart
by identities of 64 bits, so all of it holds only as long as these are not used up.
-/
namespace GuestNat

/-- What holds of a link at any time: what waits is a request that goes out from the stand-in, it
waits only where there is no socket, and a closed link has neither. -/
structure Link.Orderly (l : Link) : Prop where
  source : ∀ syn, l.pending = some syn → syn.source = l.standIn
  opens : ∀ syn, l.pending = some syn → syn.flags.opens = true
  socket : l.pending.isSome = true → l.socket = none
  closed : l.closed = true → l.pending = none ∧ l.socket = none

namespace Link.Orderly

variable {l : Link}

/-- A link without a waiting request is orderly if it is open. -/
lemma of_open (hpending : l.pending = none) (hopen : l.closed = false) : l.Orderly where
  source syn hsyn := by simp [hpending] at hsyn
  opens syn hsyn := by simp [hpending] at hsyn
  socket hp := by simp [hpending] at hp
  closed hc := by simp [hopen] at hc

/-- A request to open waits on an open link without a socket. -/
lemma of_waiting {syn : Segment} (hpending : l.pending = some syn)
    (hsource : syn.source = l.standIn) (hopens : syn.flags.opens = true)
    (hsocket : l.socket = none) (hopen : l.closed = false) : l.Orderly where
  source s hs := Option.some.inj (hpending.symm.trans hs) ▸ hsource
  opens s hs := Option.some.inj (hpending.symm.trans hs) ▸ hopens
  socket _ := hsocket
  closed hc := by simp [hopen] at hc

lemma dispose (l : Link) : l.dispose.Orderly where
  source _ hs := nomatch hs
  opens _ hs := nomatch hs
  socket _ := rfl
  closed _ := ⟨rfl, rfl⟩

end Link.Orderly

namespace LinkTable

variable {t : LinkTable}

lemma closeLink?_eq {id : LinkId} {l : Link} (hl : t.link? id = some l)
    (hk : t.byTuple.get? l.key = some id) : t.closeLink? id = some (t.drop l, l) := by
  simp [closeLink?, hl, hk]

lemma modify_eq_self {id : LinkId} {l : Link} {f : Link → Link} (hl : t.link? id = some l)
    (hf : f l = l) : t.modify id f = t := by
  have hlinks : t.links.modify id f = t.links.modify id fun m => m := by
    apply Table.modify_congr
    intro m hm
    obtain rfl := Option.some.inj (hl.symm.trans hm)
    exact hf
  have hid : (t.links.modify id fun m => m) = t.links := by
    simp only [Table.modify, ite_self, List.map_id']
  rw [modify, hlinks, hid]

end LinkTable

namespace Engine

/-- What holds of an engine until the 64 bits of the identities are used up: its links are
sound and orderly, and connections are being opened only for links that are known and have no
socket, one for each. -/
structure Coherent (e : Engine) : Prop extends e.Sound where
  dials : e.dials < UInt64.size
  consistent : e.links.Consistent e.dials
  orderly : ∀ id l, e.links.link? id = some l → l.Orderly
  known : ∀ id ∈ e.dialing, ∃ l, e.links.link? id = some l ∧ l.socket = none
  once : e.dialing.Nodup

namespace Coherent

variable {e : Engine} {l m : Link} {id : LinkId}

lemma of_findTuple (h : e.Coherent) {k : LinkKey} (hl : e.links.findTuple k = some l) :
    e.links.link? l.id = some l ∧ l.closed = false ∧ l.key = k := by
  obtain ⟨hk, hlink, hkey, -⟩ := h.consistent.of_findTuple hl
  refine ⟨hlink, (h.consistent.open_iff l.id l hlink).mpr ?_, hkey⟩
  rw [hkey]
  exact hk

lemma of_findPort (h : e.Coherent) {p : UInt16} (hl : e.links.findPort p = some l) :
    e.links.link? l.id = some l ∧ l.closed = false ∧ l.port = p := by
  obtain ⟨hl, hport⟩ := h.consistent.of_findPort hl
  obtain ⟨hlink, hopen, -⟩ := h.of_findTuple hl
  exact ⟨hlink, hopen, hport⟩

lemma findTuple_eq (h : e.Coherent) (hl : e.links.link? id = some l) (hopen : l.closed = false) :
    e.links.findTuple l.key = some l :=
  LinkTable.findTuple_eq ((h.consistent.open_iff id l hl).mp hopen) hl

lemma findPort_eq (h : e.Coherent) (hl : e.links.link? id = some l) (hopen : l.closed = false) :
    e.links.findPort l.port = some l := h.links.findPort_eq (h.findTuple_eq hl hopen)

lemma id_eq (h : e.Coherent) (hl : e.links.link? id = some l) : l.id = id :=
  h.links.labelled id l hl

lemma byTuple_eq_none (h : e.Coherent) {k : LinkKey} (hk : e.links.findTuple k = none) :
    e.links.byTuple.get? k = none := by
  cases hid : e.links.byTuple.get? k with
  | none => rfl
  | some j =>
    obtain ⟨m, hm, -⟩ := h.consistent.tuple k j hid
    rw [LinkTable.findTuple_eq hid hm] at hk
    cases hk

lemma byPort_eq_none_iff (h : e.Coherent) {p : UInt16} :
    e.links.byPort.get? p = none ↔ e.links.findPort p = none := by
  constructor
  · intro hp
    rw [LinkTable.findPort, hp]
    rfl
  · intro hp
    cases hid : e.links.byPort.get? p with
    | none => rfl
    | some j =>
      obtain ⟨m, hm, -⟩ := h.consistent.port p j hid
      rw [LinkTable.findPort, hid, Option.bind_eq_bind, Option.bind_some, hm] at hp
      cases hp

/-- The next link has an identity of its own: no link has it yet, not even when the next is the
last that fits 64 bits. -/
lemma nextId_unknown (h : e.Coherent) : e.links.link? e.links.nextId = none := by
  cases hl : e.links.link? e.links.nextId with
  | none => rfl
  | some l =>
    obtain ⟨-, hpos, hle⟩ := h.consistent.known _ l hl
    rw [h.consistent.next, UInt64.toNat_ofNat'] at hpos hle
    have hdials := h.dials
    have hsize : UInt64.size = 2 ^ 64 := rfl
    omega

lemma standIn_ip (h : e.Coherent) (hl : e.links.link? id = some l) :
    l.standIn.ip = e.config.gateway := (h.links.standIn id l hl).trans h.gateway

/-- What goes to the gateway, to the port of a link, goes to its stand-in. -/
lemma eq_standIn (h : e.Coherent) (hl : e.links.link? id = some l) {a : Endpoint}
    (hip : a.ip = e.config.gateway) (hport : a.port = l.port) : a = l.standIn :=
  (Endpoint.mk.injEq ..).mpr ⟨hip.trans (h.standIn_ip hl).symm, hport⟩

lemma standIn_ne_of_ip (h : e.Coherent) (hl : e.links.link? id = some l) {a : Endpoint}
    (ha : a.ip ≠ e.config.gateway) : a ≠ l.standIn := by
  rintro rfl
  exact ha (h.standIn_ip hl)

lemma standIn_ne (h : e.Coherent) (hl : e.links.link? id = some l) (hopen : l.closed = false)
    {j : LinkId} (hm : e.links.link? j = some m) (hopen' : m.closed = false) (hne : id ≠ j) :
    m.standIn ≠ l.standIn := by
  intro he
  have hml := h.links.standIn_inj (h.findTuple_eq hm hopen') (h.findTuple_eq hl hopen) he
  rw [← h.id_eq hl, ← h.id_eq hm, hml] at hne
  exact hne rfl

end Coherent

lemma Coherent.count {e : Engine} (h : e.Coherent) (f : Counters → Counters) :
    (e.count f).Coherent where
  toSound := ⟨h.links, h.gateway, h.avoids⟩
  dials := h.dials
  consistent := h.consistent
  orderly := h.orderly
  known := h.known
  once := h.once

lemma coherent_ofConfig (c : Config) : (ofConfig c).Coherent where
  toSound := sound_ofConfig c
  dials := (by decide : 0 < UInt64.size)
  consistent := .ofRange c.gateway c.firstPort c.lastPort
  orderly := by intro id l hl; cases hl
  known := by intro id hid; cases hid
  once := .nil

end Engine

end GuestNat
