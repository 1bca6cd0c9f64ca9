import GuestNat.Proofs.Link.Pairing

/-!
# The two indexes of a link table agree

The index by 4-tuple and the index by port are inverse to each other on the same links
after any requests (`indexes_agree`), as long as the 64 bits of the identities are not
used up. The invariant `Consistent` also counts the links that were created, so that
the next identity is always a new one.
-/
namespace GuestNat.LinkTable

/-- The links that were created are known by identities from 1 on, each with a port of the
range at the gateway. -/
structure Registered (t : LinkTable) (created : Nat) : Prop where
  next : t.nextId = UInt64.ofNat (created + 1)
  size : t.links.size = created
  known : ∀ id l, t.link? id = some l → l.id = id ∧ 1 ≤ id.toNat ∧ id.toNat ≤ created
  standIn : ∀ id l, t.link? id = some l →
    l.standIn.ip = t.gateway ∧ t.ports.first ≤ l.port ∧ l.port ≤ t.ports.last
  cursor : t.ports.first ≤ t.ports.last → t.ports.Valid

/-- The indexes agree on the live links, which are those that are not marked as closed. -/
structure Consistent (t : LinkTable) (created : Nat) : Prop extends t.Registered created where
  tuple : ∀ k id, t.byTuple.get? k = some id →
    ∃ l, t.link? id = some l ∧ l.key = k ∧ t.byPort.get? l.port = some id
  port : ∀ p id, t.byPort.get? p = some id →
    ∃ l, t.link? id = some l ∧ l.port = p ∧ t.byTuple.get? l.key = some id
  open_iff : ∀ id l, t.link? id = some l → (l.closed = false ↔ t.byTuple.get? l.key = some id)

namespace Registered

variable {t t' : LinkTable} {n : Nat}

/-- Links may change as long as they keep their identities and stand-ins. -/
lemma of_links (h : t.Registered n) (hgateway : t'.gateway = t.gateway)
    (hports : t'.ports = t.ports) (hnext : t'.nextId = t.nextId)
    (hsize : t'.links.size = t.links.size)
    (hlinks : ∀ id l, t'.link? id = some l → ∃ m, t.link? id = some m ∧ l.ends = m.ends) :
    t'.Registered n where
  next := hnext.trans h.next
  size := hsize.trans h.size
  known := by
    intro id l hl
    obtain ⟨m, hm, he⟩ := hlinks id l hl
    rw [(Link.ends_eq_iff.mp he).1]
    exact h.known id m hm
  standIn := by
    intro id l hl
    obtain ⟨m, hm, he⟩ := hlinks id l hl
    rw [Link.port, (Link.ends_eq_iff.mp he).2.2.2, hgateway, hports]
    exact h.standIn id m hm
  cursor := by
    rw [hports]
    exact h.cursor

lemma toNat_nextId (h : t.Registered n) (hn : n + 1 < UInt64.size) :
    t.nextId.toNat = n + 1 := by
  rw [h.next, UInt64.toNat_ofNat']
  exact Nat.mod_eq_of_lt hn

lemma ne_nextId (h : t.Registered n) (hn : n + 1 < UInt64.size) {j : LinkId} {l : Link}
    (hl : t.link? j = some l) : j ≠ t.nextId := by
  rintro rfl
  have hle := (h.known _ l hl).2.2
  have hnext := h.toNat_nextId hn
  omega

lemma create (h : t.Registered n) (hn : n + 1 < UInt64.size) (key : LinkKey) {port : UInt16}
    (now : Nat) (hrange : t.ports.first ≤ port ∧ port ≤ t.ports.last) :
    (t.create key port now).Registered (n + 1) where
  next := by
    change t.nextId + 1 = _
    rw [h.next, UInt64.ofNat_add (n + 1) 1]
    rfl
  size := by
    have hnew : t.nextId ∉ t.links.keys := by
      rw [← Table.get?_eq_none_iff, Option.eq_none_iff_forall_ne_some]
      exact fun l hl => h.ne_nextId hn hl rfl
    change (t.links.insert t.nextId _).size = _
    rw [Table.size_insert, if_neg hnew, h.size]
  known := by
    intro j l hl
    have hnext := h.toNat_nextId hn
    rcases link?_create_eq_some hl with ⟨rfl, rfl⟩ | ⟨-, hl⟩
    · exact ⟨rfl, by omega, by omega⟩
    · obtain ⟨hid, hpos, hle⟩ := h.known j l hl
      exact ⟨hid, hpos, by omega⟩
  standIn := by
    intro j l hl
    rcases link?_create_eq_some hl with ⟨-, rfl⟩ | ⟨-, hl⟩
    · exact ⟨rfl, hrange⟩
    · exact h.standIn j l hl
  cursor := h.cursor

lemma drop (h : t.Registered n) (l : Link) : (t.drop l).Registered n := by
  refine h.of_links rfl rfl rfl (Table.size_modify ..) ?_
  intro j m hm
  rcases link?_drop_eq_some hm with ⟨-, hm⟩ | ⟨-, m', hm', rfl⟩
  · exact ⟨m, hm, rfl⟩
  · exact ⟨m', hm', Link.ends_dispose m'⟩

end Registered

namespace Consistent

variable {t : LinkTable} {n : Nat}

lemma of_findTuple (h : t.Consistent n) {k : LinkKey} {l : Link}
    (hf : t.findTuple k = some l) :
    t.byTuple.get? k = some l.id ∧ t.link? l.id = some l ∧ l.key = k ∧
      t.byPort.get? l.port = some l.id := by
  obtain ⟨id, hk, hl⟩ := Option.bind_eq_some_iff.mp hf
  obtain ⟨m, hm, hkey, hport⟩ := h.tuple k id hk
  obtain rfl : m = l := Option.some.inj (hm.symm.trans hl)
  obtain rfl := (h.known id m hl).1
  exact ⟨hk, hl, hkey, hport⟩

lemma of_findPort (h : t.Consistent n) {p : UInt16} {l : Link}
    (hf : t.findPort p = some l) : t.findTuple l.key = some l ∧ l.port = p := by
  obtain ⟨id, hp, hl⟩ := Option.bind_eq_some_iff.mp hf
  obtain ⟨m, hm, hport, hkey⟩ := h.port p id hp
  obtain rfl : m = l := Option.some.inj (hm.symm.trans hl)
  obtain rfl := (h.known id m hl).1
  exact ⟨findTuple_eq hkey hl, hport⟩

lemma findPort_eq (h : t.Consistent n) {k : LinkKey} {l : Link}
    (hf : t.findTuple k = some l) : t.findPort l.port = some l := by
  obtain ⟨-, hl, -, hp⟩ := h.of_findTuple hf
  rw [findPort, hp]
  exact hl

/-- Two live links are the same if they share a 4-tuple, a port or an identity. -/
lemma findTuple_inj (h : t.Consistent n) {k₁ k₂ : LinkKey} {l₁ l₂ : Link}
    (h₁ : t.findTuple k₁ = some l₁) (h₂ : t.findTuple k₂ = some l₂)
    (hs : l₁.key = l₂.key ∨ l₁.port = l₂.port ∨ l₁.id = l₂.id) : k₁ = k₂ ∧ l₁ = l₂ := by
  obtain ⟨ht₁, hl₁, hk₁, hp₁⟩ := h.of_findTuple h₁
  obtain ⟨ht₂, hl₂, hk₂, hp₂⟩ := h.of_findTuple h₂
  have hid : l₁.id = l₂.id := by
    rcases hs with hk | hp | hid
    · rw [← hk₁, hk, hk₂, ht₂] at ht₁
      exact (Option.some.inj ht₁).symm
    · rw [hp, hp₂] at hp₁
      exact (Option.some.inj hp₁).symm
    · exact hid
  have hl : l₁ = l₂ := by
    rw [hid, hl₂] at hl₁
    exact (Option.some.inj hl₁).symm
  exact ⟨by rw [← hk₁, ← hk₂, hl], hl⟩

lemma ofRange (gateway : Ipv4) (first last : UInt16) :
    (LinkTable.ofRange gateway first last).Consistent 0 where
  next := rfl
  size := rfl
  known := by intro id l h; cases h
  tuple := by intro k id h; cases h
  port := by intro p id h; cases h
  open_iff := by intro id l h; cases h
  standIn := by intro id l h; cases h
  cursor := PortPool.valid_ofRange

lemma modify (h : t.Consistent n) (id : LinkId) {f : Link → Link} (hf : Link.InPlace f) :
    (t.modify id f).Consistent n := by
  have hback : ∀ j l, (t.modify id f).link? j = some l → ∃ m, t.link? j = some m ∧
      l.ends = m.ends ∧ l.closed = m.closed := by
    intro j l hl
    obtain ⟨m, hm, rfl | rfl⟩ := link?_modify_eq_some hl
    · exact ⟨m, hm, hf.ends m, hf.closed m⟩
    · exact ⟨l, hm, rfl, rfl⟩
  have hforth : ∀ j m, t.link? j = some m → ∃ l, (t.modify id f).link? j = some l ∧
      l.key = m.key ∧ l.port = m.port := by
    intro j m hm
    rw [link?_modify, hm]
    split
    · exact ⟨f m, rfl, Link.key_eq_of_ends (hf.ends m), Link.port_eq_of_ends (hf.ends m)⟩
    · exact ⟨m, rfl, rfl, rfl⟩
  constructor
  case toRegistered =>
    refine h.toRegistered.of_links rfl rfl rfl (Table.size_modify ..) ?_
    intro j l hl
    obtain ⟨m, hm, he, -⟩ := hback j l hl
    exact ⟨m, hm, he⟩
  case tuple =>
    intro k j hk
    obtain ⟨m, hm, hkey, hport⟩ := h.tuple k j hk
    obtain ⟨l, hl, hkey', hport'⟩ := hforth j m hm
    exact ⟨l, hl, hkey'.trans hkey, by rw [hport']; exact hport⟩
  case port =>
    intro p j hp
    obtain ⟨m, hm, hport, hkey⟩ := h.port p j hp
    obtain ⟨l, hl, hkey', hport'⟩ := hforth j m hm
    exact ⟨l, hl, hport'.trans hport, by rw [hkey']; exact hkey⟩
  case open_iff =>
    intro j l hl
    obtain ⟨m, hm, he, hclosed⟩ := hback j l hl
    rw [Link.key_eq_of_ends he, hclosed]
    exact h.open_iff j m hm

lemma setPorts (h : t.Consistent n) {ports : PortPool} (hfirst : ports.first = t.ports.first)
    (hlast : ports.last = t.ports.last) (hvalid : t.ports.Valid → ports.Valid) :
    ({ t with ports } : LinkTable).Consistent n where
  next := h.next
  size := h.size
  known := h.known
  standIn := by
    intro j l hl
    change l.standIn.ip = t.gateway ∧ ports.first ≤ l.port ∧ l.port ≤ ports.last
    rw [hfirst, hlast]
    exact h.standIn j l hl
  cursor := by
    change ports.first ≤ ports.last → ports.Valid
    rw [hfirst, hlast]
    exact fun hle => hvalid (h.cursor hle)
  tuple := h.tuple
  port := h.port
  open_iff := h.open_iff

lemma portFollows (h : t.Consistent n) : t.PortFollows := by
  intro id l hl hk
  obtain ⟨m, hm, -, hp⟩ := h.tuple _ id hk
  rwa [Option.some.inj (hl.symm.trans hm)]

section Creation

variable {key : LinkKey} {port : UInt16} (now : Nat)

lemma link?_create_of_known (h : t.Consistent n) (hn : n + 1 < UInt64.size) {j : LinkId}
    {l : Link} (hl : t.link? j = some l) : (t.create key port now).link? j = some l := by
  rw [link?_create, if_neg (h.ne_nextId hn hl), hl]

lemma known_of_byTuple_create (h : t.Consistent n) (hn : n + 1 < UInt64.size) {k : LinkKey}
    {j : LinkId} (hk : (t.create key port now).byTuple.get? k = some j) :
    ∃ l, (t.create key port now).link? j = some l ∧ l.key = k := by
  rw [byTuple_create] at hk
  split at hk
  · rename_i hkey
    obtain rfl := Option.some.inj hk
    exact ⟨t.fresh key port now, by rw [link?_create, if_pos rfl], hkey.symm⟩
  · obtain ⟨m, hm, hmk, -⟩ := h.tuple k j hk
    exact ⟨m, h.link?_create_of_known now hn hm, hmk⟩

lemma known_of_byPort_create (h : t.Consistent n) (hn : n + 1 < UInt64.size) {p : UInt16}
    {j : LinkId} (hp : (t.create key port now).byPort.get? p = some j) :
    ∃ l, (t.create key port now).link? j = some l ∧ l.port = p ∧ l.closed = false := by
  rw [byPort_create] at hp
  split at hp
  · rename_i hport
    obtain rfl := Option.some.inj hp
    exact ⟨t.fresh key port now, by rw [link?_create, if_pos rfl], hport.symm, rfl⟩
  · obtain ⟨m, hm, hmp, hk⟩ := h.port p j hp
    exact ⟨m, h.link?_create_of_known now hn hm, hmp, (h.open_iff j m hm).mpr hk⟩

lemma open_iff_create (h : t.Consistent n) (hkey : t.byTuple.get? key = none) {j : LinkId}
    {l : Link} (hl : (t.create key port now).link? j = some l) :
    l.closed = false ↔ (t.create key port now).byTuple.get? l.key = some j := by
  rw [byTuple_create]
  rcases link?_create_eq_some hl with ⟨rfl, rfl⟩ | ⟨hj, hl⟩
  · exact iff_of_true rfl (if_pos rfl)
  · rw [h.open_iff j l hl]
    split
    · rename_i hk
      rw [hk, hkey]
      simp [Ne.symm hj]
    · rfl

lemma create (h : t.Consistent n) (hn : n + 1 < UInt64.size)
    (hkey : t.byTuple.get? key = none) (hport : t.byPort.get? port = none)
    (hrange : t.ports.first ≤ port ∧ port ≤ t.ports.last) :
    (t.create key port now).Consistent (n + 1) where
  toRegistered := h.toRegistered.create hn key now hrange
  tuple := by
    intro k j hk
    obtain ⟨l, hl, rfl⟩ := h.known_of_byTuple_create now hn hk
    exact ⟨l, hl, rfl, h.portFollows.create now hport j l hl hk⟩
  port := by
    intro p j hp
    obtain ⟨l, hl, rfl, hopen⟩ := h.known_of_byPort_create now hn hp
    exact ⟨l, hl, rfl, (h.open_iff_create now hkey hl).mp hopen⟩
  open_iff _ _ := h.open_iff_create now hkey

end Creation

section Closing

variable {l : Link}

/-- Closing a link leaves the live links of other identities known. -/
lemma known_of_byTuple_drop (h : t.Consistent n) (hl : t.link? l.id = some l) {k : LinkKey}
    {j : LinkId} (hk : (t.drop l).byTuple.get? k = some j) :
    ∃ m, (t.drop l).link? j = some m ∧ m.key = k := by
  rw [byTuple_drop] at hk
  split at hk
  · cases hk
  · rename_i hne
    obtain ⟨m, hm, rfl, -⟩ := h.tuple k j hk
    have hj : j ≠ l.id := by
      rintro rfl
      exact hne (congrArg Link.key (Option.some.inj (hm.symm.trans hl)))
    exact ⟨m, by rw [link?_drop, if_neg hj, hm], rfl⟩

lemma known_of_byPort_drop (h : t.Consistent n) (hl : t.link? l.id = some l) {p : UInt16}
    {j : LinkId} (hp : (t.drop l).byPort.get? p = some j) :
    ∃ m, (t.drop l).link? j = some m ∧ m.port = p ∧ m.closed = false := by
  rw [byPort_drop] at hp
  split at hp
  · cases hp
  · rename_i hne
    obtain ⟨m, hm, rfl, hk⟩ := h.port p j hp
    have hj : j ≠ l.id := by
      rintro rfl
      exact hne (congrArg Link.port (Option.some.inj (hm.symm.trans hl)))
    exact ⟨m, by rw [link?_drop, if_neg hj, hm], rfl, (h.open_iff j m hm).mpr hk⟩

lemma open_iff_drop (h : t.Consistent n) (hl : t.link? l.id = some l)
    (hk : t.byTuple.get? l.key = some l.id) {j : LinkId} {m : Link}
    (hm : (t.drop l).link? j = some m) :
    m.closed = false ↔ (t.drop l).byTuple.get? m.key = some j := by
  rw [byTuple_drop]
  rcases link?_drop_eq_some hm with ⟨hj, hm⟩ | ⟨rfl, m', hm', rfl⟩
  · rw [h.open_iff j m hm]
    split
    · rename_i he
      rw [he, hk]
      simp [Ne.symm hj]
    · rfl
  · obtain rfl := Option.some.inj (hm'.symm.trans hl)
    simp [Link.dispose, Link.key]

/-- Closing a live link takes it, and no other, out of both indexes. -/
lemma drop (h : t.Consistent n) (hl : t.link? l.id = some l)
    (hk : t.byTuple.get? l.key = some l.id) : (t.drop l).Consistent n where
  toRegistered := h.toRegistered.drop l
  tuple := by
    intro k j hkj
    obtain ⟨m, hm, rfl⟩ := h.known_of_byTuple_drop hl hkj
    exact ⟨m, hm, rfl, h.portFollows.drop hl hk j m hm hkj⟩
  port := by
    intro p j hpj
    obtain ⟨m, hm, rfl, hopen⟩ := h.known_of_byPort_drop hl hpj
    exact ⟨m, hm, rfl, (h.open_iff_drop hl hk hm).mp hopen⟩
  open_iff _ _ := h.open_iff_drop hl hk

end Closing

lemma clear (h : t.Consistent n) : t.clear.1.Consistent n := by
  have hback : ∀ j m', t.clear.1.link? j = some m' → ∃ m, t.link? j = some m ∧
      m'.ends = m.ends ∧ m'.closed = true := by
    intro j m' hm'
    rw [link?_clear] at hm'
    split at hm'
    · obtain ⟨m, hm, rfl⟩ := Option.map_eq_some_iff.mp hm'
      exact ⟨m, hm, rfl, rfl⟩
    · rename_i hj
      refine ⟨m', hm', rfl, ?_⟩
      by_contra ho
      have hk := (h.open_iff j m' hm').mp (by simpa using ho)
      exact hj (Table.mem_values_iff.mpr ⟨_, hk⟩)
  constructor
  case toRegistered =>
    refine h.toRegistered.of_links rfl rfl rfl size_clear ?_
    intro j m' hm'
    obtain ⟨m, hm, he, -⟩ := hback j m' hm'
    exact ⟨m, hm, he⟩
  case tuple => intro k j hk; cases hk
  case port => intro p j hp; cases hp
  case open_iff =>
    intro j m' hm'
    obtain ⟨m, -, -, hc⟩ := hback j m' hm'
    rw [hc]
    exact iff_of_false (by simp) (fun hk => by cases hk)

/-- A request keeps the indexes consistent, and creates at most one link. -/
lemma obey (h : t.Consistent n) (r : LinkRequest) (hn : n + (t.creates r).toNat < UInt64.size) :
    (t.obey r).Consistent (n + (t.creates r).toNat) := by
  have ho := t.obeys r
  generalize t.obey r = t', t.creates r = c at ho hn ⊢
  cases ho with
  | nothing => exact h
  | inPlace hf => exact h.modify _ hf
  | full hports =>
    obtain ⟨hfirst, hlast, hvalid⟩ := PortPool.allocate_range hports
    exact h.setPorts hfirst hlast hvalid
  | @created key reserved now port ports hkey hports =>
    obtain ⟨hfirst, hlast, hvalid⟩ := PortPool.allocate_range hports
    obtain ⟨hle, hge⟩ := PortPool.allocate_mem h.cursor hports
    have hport : t.byPort.get? port = none := by
      simpa [Table.contains] using PortPool.allocate_free hports
    refine (h.setPorts hfirst hlast hvalid).create now hn hkey hport ?_
    exact ⟨hfirst.trans_le hle, hge.trans_eq hlast.symm⟩
  | closed hl =>
    obtain ⟨hk, hlink, hkey, -⟩ := h.of_findTuple hl
    exact h.drop hlink (by rw [hkey]; exact hk)
  | @closedAsItself id l hl hkey =>
    obtain rfl := (h.known id l hl).1
    exact h.drop hl hkey
  | cleared => exact h.clear

lemma run (h : t.Consistent n) (requests : List LinkRequest)
    (hn : n + t.creations requests < UInt64.size) :
    (t.run requests).Consistent (n + t.creations requests) := by
  induction requests generalizing t n with
  | nil => exact h
  | cons r rest ih =>
    simp only [creations] at hn ⊢
    have hr := h.obey r (by omega)
    rw [← Nat.add_assoc] at hn ⊢
    exact ih hr hn

/-- Closing a link as itself leaves every other live link where it is. -/
lemma findTuple_closeLink (h : t.Consistent n) {id : LinkId} {l : Link}
    (hl : t.findTuple l.key = some l) (hne : l.id ≠ id) :
    (t.obey (.closeLink id)).findTuple l.key = some l ∧
      (t.obey (.closeLink id)).findPort l.port = some l := by
  simp only [LinkTable.obey]
  cases hc : t.closeLink? id with
  | none => exact ⟨hl, h.findPort_eq hl⟩
  | some result =>
    obtain ⟨t', m⟩ := result
    obtain ⟨hm, hmk, rfl⟩ := closeLink?_eq_some hc
    obtain rfl := (h.known id m hm).1
    obtain ⟨hk, hlink, -, -⟩ := h.of_findTuple hl
    have hdrop := h.drop hm hmk
    have hkey : l.key ≠ m.key := by
      intro he
      rw [he, hmk] at hk
      exact hne (Option.some.inj hk).symm
    have hlink' : (t.drop m).link? l.id = some l := by rw [link?_drop, if_neg hne, hlink]
    have hfind : (t.drop m).findTuple l.key = some l :=
      findTuple_eq (by rw [byTuple_drop, if_neg hkey, hk]) hlink'
    exact ⟨hfind, hdrop.findPort_eq hfind⟩

lemma closed_iff (h : t.Consistent n) {id : LinkId} {l : Link} (hl : t.link? id = some l) :
    (l.closed = true ↔ t.findTuple l.key ≠ some l) ∧
      (l.closed = true ↔ t.findPort l.port ≠ some l) := by
  obtain rfl := (h.known id l hl).1
  have htuple : t.findTuple l.key = some l ↔ l.closed = false := by
    rw [h.open_iff l.id l hl]
    exact ⟨fun hf => (h.of_findTuple hf).1, fun hk => findTuple_eq hk hl⟩
  have hport : t.findPort l.port = some l ↔ l.closed = false := by
    rw [← htuple]
    exact ⟨fun hf => (h.of_findPort hf).1, h.findPort_eq⟩
  constructor
  · rw [Ne, htuple, Bool.not_eq_false]
  · rw [Ne, hport, Bool.not_eq_false]

lemma live_nodup (h : t.Consistent n) : t.live.Nodup := by
  refine List.pairwise_map.mpr ((List.pairwise_map.mp t.byTuple.distinct).imp_of_mem ?_)
  intro x y hx hy hne hid
  obtain ⟨l, hl, hlk, -⟩ := h.tuple x.1 x.2 (Table.get?_of_mem hx)
  obtain ⟨m, hm, hmk, -⟩ := h.tuple y.1 y.2 (Table.get?_of_mem hy)
  rw [hid, hm] at hl
  exact hne (by rw [← hlk, ← hmk, Option.some.inj hl])

end Consistent

/-- After any requests to a table that starts without links, and that created fewer than 2⁶⁴
of them, the indexes are inverse to each other on the same links: no two live links share a
4-tuple, a port or an identity, and every link that was created is still known. The live
ports lie in the range, the links that are marked as closed are those that are not live, and
closing any link as itself, however old, takes no other link out of the table. -/
theorem indexes_agree (gateway : Ipv4) (first last : UInt16) (requests : List LinkRequest)
    (hcount : (ofRange gateway first last).creations requests < UInt64.size) :
    let t := (ofRange gateway first last).run requests
    (∀ k l, t.findTuple k = some l → l.key = k ∧ t.findPort l.port = some l) ∧
    (∀ p l, t.findPort p = some l → l.port = p ∧ t.findTuple l.key = some l) ∧
    (∀ k id, t.byTuple.get? k = some id → ∃ l, t.findTuple k = some l ∧ l.id = id) ∧
    (∀ p id, t.byPort.get? p = some id → ∃ l, t.findPort p = some l ∧ l.id = id) ∧
    (∀ k₁ k₂ l₁ l₂, t.findTuple k₁ = some l₁ → t.findTuple k₂ = some l₂ →
      l₁.key = l₂.key ∨ l₁.port = l₂.port ∨ l₁.id = l₂.id → k₁ = k₂ ∧ l₁ = l₂) ∧
    t.links.size = (ofRange gateway first last).creations requests ∧
    (∀ p l, t.findPort p = some l → first ≤ p ∧ p ≤ last) ∧
    (∀ id l, t.link? id = some l → l.id = id ∧
      (l.closed = true ↔ t.findTuple l.key ≠ some l) ∧
      (l.closed = true ↔ t.findPort l.port ≠ some l)) ∧
    (∀ old new, t.findTuple new.key = some new → new.id ≠ old →
      (t.obey (.closeLink old)).findTuple new.key = some new ∧
      (t.obey (.closeLink old)).findPort new.port = some new) := by
  intro t
  have h : t.Consistent ((ofRange gateway first last).creations requests) := by
    have hrun := (Consistent.ofRange gateway first last).run requests (by omega)
    rwa [Nat.zero_add] at hrun
  refine ⟨?_, ?_, ?_, ?_, fun _ _ _ _ h₁ h₂ hs => h.findTuple_inj h₁ h₂ hs, h.size, ?_,
    fun _ _ hl => ⟨(h.known _ _ hl).1, h.closed_iff hl⟩,
    fun _ _ hl hne => h.findTuple_closeLink hl hne⟩
  · intro k l hf
    exact ⟨(h.of_findTuple hf).2.2.1, h.findPort_eq hf⟩
  · intro p l hf
    exact ⟨(h.of_findPort hf).2, (h.of_findPort hf).1⟩
  · intro k id hk
    obtain ⟨l, hl, -, -⟩ := h.tuple k id hk
    exact ⟨l, findTuple_eq hk hl, (h.known id l hl).1⟩
  · intro p id hp
    obtain ⟨l, hl, -, -⟩ := h.port p id hp
    exact ⟨l, by rw [findPort, hp]; exact hl, (h.known id l hl).1⟩
  · intro p l hf
    obtain ⟨hft, rfl⟩ := h.of_findPort hf
    obtain ⟨-, hl, -, -⟩ := h.of_findTuple hft
    obtain ⟨-, hfirst, hlast⟩ := run_range (ofRange gateway first last) requests
    obtain ⟨-, hle, hge⟩ := h.standIn l.id l hl
    exact ⟨hfirst.symm.trans_le hle, hge.trans_eq hlast⟩

/-- The 4-tuple and the only port of a closed link are used again, and the old link is closed
once more: the new link stays. -/
theorem indexes_agree_reused :
    let key : LinkKey := (⟨⟨10, 0, 0, 5⟩, 51000⟩, ⟨⟨93, 184, 216, 34⟩, 80⟩)
    let requests : List LinkRequest := [.allocate key [] 0, .close key, .allocate key [] 5]
    let t := (ofRange ⟨10, 0, 0, 2⟩ 53001 53001).run requests
    (ofRange ⟨10, 0, 0, 2⟩ 53001 53001).creations requests < UInt64.size ∧
      ((t.obey (.closeLink 1)).findTuple key).map (·.id) = some 2 ∧
      ((t.obey (.closeLink 1)).findPort 53001).map (·.id) = some 2 := by
  intro key requests t
  have hcount : (ofRange ⟨10, 0, 0, 2⟩ 53001 53001).creations requests < UInt64.size := by decide
  obtain ⟨-, -, -, -, -, -, -, -, hclose⟩ :=
    indexes_agree ⟨10, 0, 0, 2⟩ 53001 53001 requests hcount
  have hf : t.findTuple key = some { t.fresh key 53001 5 with id := 2 } := by decide
  obtain ⟨htuple, hport⟩ := hclose 1 { t.fresh key 53001 5 with id := 2 } hf (by decide)
  exact ⟨hcount, congrArg (Option.map Link.id) htuple, congrArg (Option.map Link.id) hport⟩

end GuestNat.LinkTable
