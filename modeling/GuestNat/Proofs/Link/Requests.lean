import GuestNat.Link.Table
import GuestNat.Proofs.Port.Pool

/-!
# Requests to a link table

A link table changes by requests: a link is asked for, closed by its 4-tuple or as
itself, all links are closed, or a link changes in its place. Each request has lemmas
that say what it does to the links and to the two indexes; what holds of every table
that requests lead to is derived from them.
-/
namespace GuestNat

/-- The identity and the endpoints of a link, which are its own for good. -/
def Link.ends (l : Link) : LinkId × Endpoint × Endpoint × Endpoint :=
  (l.id, l.source, l.destination, l.standIn)

/-- A change that leaves alone what a table goes by: the identity and endpoints of a
link, and whether it is closed. -/
structure Link.InPlace (f : Link → Link) : Prop where
  ends : ∀ l, (f l).ends = l.ends
  closed : ∀ l, (f l).closed = l.closed

/-- What a link table is asked for. -/
inductive LinkRequest where
  | allocate (key : LinkKey) (reserved : List UInt16) (now : Nat)
  | close (key : LinkKey)
  | closeLink (id : LinkId)
  | clear
  /-- A link changes in its place: a segment is observed, a socket comes or goes. -/
  | change (id : LinkId) (f : Link → Link) (inPlace : Link.InPlace f)

/-- What the engine of a gateway asks for: links to other addresses, which are closed as
themselves. -/
def LinkRequest.Admissible (gateway : Ipv4) : LinkRequest → Prop
  | .allocate key _ _ => key.2.ip ≠ gateway
  | .close _ => False
  | _ => True

namespace Link

lemma ends_eq_iff {l m : Link} : l.ends = m.ends ↔
    l.id = m.id ∧ l.source = m.source ∧ l.destination = m.destination ∧
      l.standIn = m.standIn := by
  simp only [ends, Prod.mk.injEq]

lemma key_eq_of_ends {l m : Link} (h : l.ends = m.ends) : l.key = m.key := by
  obtain ⟨-, hs, hd, -⟩ := ends_eq_iff.mp h
  rw [key, key, hs, hd]

lemma port_eq_of_ends {l m : Link} (h : l.ends = m.ends) : l.port = m.port := by
  rw [port, port, (ends_eq_iff.mp h).2.2.2]

lemma inPlace_touch (now : Nat) : InPlace (·.touch now) := ⟨fun _ => rfl, fun _ => rfl⟩

lemma inPlace_observe (side : Side) (s : Segment) : InPlace (·.observe side s) :=
  ⟨fun _ => rfl, fun _ => rfl⟩

lemma inPlace_pending (p : Link → Option Segment) : InPlace fun l => { l with pending := p l } :=
  ⟨fun _ => rfl, fun _ => rfl⟩

lemma InPlace.comp {f g : Link → Link} (hf : InPlace f) (hg : InPlace g) :
    InPlace fun l => f (g l) :=
  ⟨fun l => (hf.ends (g l)).trans (hg.ends l), fun l => (hf.closed (g l)).trans (hg.closed l)⟩

@[simp] theorem ends_dispose (l : Link) : l.dispose.ends = l.ends := rfl

@[simp] theorem key_dispose (l : Link) : l.dispose.key = l.key := rfl

@[simp] theorem dispose_dispose (l : Link) : l.dispose.dispose = l.dispose := rfl

end Link

namespace LinkTable

/-- The table without links of a gateway and a range of ports. -/
def ofRange (gateway : Ipv4) (first last : UInt16) : LinkTable :=
  { gateway, ports := .ofRange first last }

def obey (t : LinkTable) : LinkRequest → LinkTable
  | .allocate key reserved now => (t.allocate key reserved now).1
  | .close key => ((t.closeTuple? key).map Prod.fst).getD t
  | .closeLink id => ((t.closeLink? id).map Prod.fst).getD t
  | .clear => t.clear.1
  | .change id f _ => t.modify id f

/-- The link that is created next for a 4-tuple at a port. -/
def fresh (t : LinkTable) (key : LinkKey) (port : UInt16) (now : Nat) : Link :=
  { id := t.nextId
    source := key.1
    destination := key.2
    standIn := ⟨t.gateway, port⟩
    lastActive := now }

def creates (t : LinkTable) : LinkRequest → Bool
  | .allocate key reserved now =>
    match (t.allocate key reserved now).2 with
    | .ok (.created _) => true
    | _ => false
  | _ => false

def run (t : LinkTable) (requests : List LinkRequest) : LinkTable := requests.foldl obey t

/-- A port of the range that no live link has and the host has not reserved. -/
structure FreePort (t : LinkTable) (reserved : List UInt16) (port : UInt16) : Prop where
  first_le : t.ports.first ≤ port
  le_last : port ≤ t.ports.last
  unused : t.byPort.get? port = none
  unreserved : port ∉ reserved

def creations (t : LinkTable) : List LinkRequest → Nat
  | [] => 0
  | r :: rest => (t.creates r).toNat + (t.obey r).creations rest

section Views

variable {t : LinkTable}

theorem link?_modify (id j : LinkId) (f : Link → Link) :
    (t.modify id f).link? j = if j = id then (t.link? j).map f else t.link? j :=
  Table.get?_modify ..

lemma link?_modify_eq_some {id j : LinkId} {f : Link → Link} {l : Link}
    (h : (t.modify id f).link? j = some l) : ∃ m, t.link? j = some m ∧ (l = f m ∨ l = m) := by
  rw [link?_modify] at h
  split at h
  · obtain ⟨m, hm, rfl⟩ := Option.map_eq_some_iff.mp h
    exact ⟨m, hm, .inl rfl⟩
  · exact ⟨l, h, .inr rfl⟩

theorem link?_create (key : LinkKey) (port : UInt16) (now : Nat) (j : LinkId) :
    (t.create key port now).link? j =
      if j = t.nextId then some (t.fresh key port now) else t.link? j :=
  Table.get?_insert ..

theorem byTuple_create (key : LinkKey) (port : UInt16) (now : Nat) (k : LinkKey) :
    (t.create key port now).byTuple.get? k =
      if k = key then some t.nextId else t.byTuple.get? k :=
  Table.get?_insert ..

theorem byPort_create (key : LinkKey) (port : UInt16) (now : Nat) (p : UInt16) :
    (t.create key port now).byPort.get? p =
      if p = port then some t.nextId else t.byPort.get? p :=
  Table.get?_insert ..

theorem byTuple_drop (l : Link) (k : LinkKey) :
    (t.drop l).byTuple.get? k = if k = l.key then none else t.byTuple.get? k :=
  Table.get?_erase ..

theorem byPort_drop (l : Link) (p : UInt16) :
    (t.drop l).byPort.get? p = if p = l.port then none else t.byPort.get? p :=
  Table.get?_erase ..

theorem link?_drop (l : Link) (j : LinkId) :
    (t.drop l).link? j = if j = l.id then (t.link? j).map Link.dispose else t.link? j :=
  Table.get?_modify ..

lemma link?_create_eq_some {key : LinkKey} {port : UInt16} {now : Nat} {j : LinkId} {l : Link}
    (h : (t.create key port now).link? j = some l) :
    j = t.nextId ∧ l = t.fresh key port now ∨ j ≠ t.nextId ∧ t.link? j = some l := by
  rw [link?_create] at h
  split at h
  · rename_i hj
    exact .inl ⟨hj, (Option.some.inj h).symm⟩
  · rename_i hj
    exact .inr ⟨hj, h⟩

lemma link?_drop_eq_some {l m : Link} {j : LinkId} (h : (t.drop l).link? j = some m) :
    j ≠ l.id ∧ t.link? j = some m ∨
      j = l.id ∧ ∃ m', t.link? j = some m' ∧ m = m'.dispose := by
  rw [link?_drop] at h
  split at h
  · rename_i hj
    obtain ⟨m', hm', rfl⟩ := Option.map_eq_some_iff.mp h
    exact .inr ⟨hj, m', hm', rfl⟩
  · rename_i hj
    exact .inl ⟨hj, h⟩

theorem link?_clear (j : LinkId) :
    t.clear.1.link? j = if j ∈ t.live then (t.link? j).map Link.dispose else t.link? j := by
  change Table.get? (t.live.foldl _ t.links) j = _
  simp only [link?]
  generalize t.live = ids
  generalize t.links = links
  induction ids generalizing links with
  | nil => simp
  | cons id rest ih =>
    rw [List.foldl_cons, ih, Table.get?_modify]
    by_cases hj : j = id
    · subst hj
      cases links.get? j <;> simp
    · simp [hj]

lemma size_clear : t.clear.1.links.size = t.links.size := by
  change (t.live.foldl _ t.links).size = _
  generalize t.live = ids
  generalize t.links = links
  induction ids generalizing links with
  | nil => rfl
  | cons id rest ih => rw [List.foldl_cons, ih, Table.size_modify]

/-- What a request for the link of a 4-tuple can come to. -/
theorem allocate_cases (t : LinkTable) (key : LinkKey) (reserved : List UInt16) (now : Nat) :
    (∃ id, t.byTuple.get? key = some id ∧
      t.allocate key reserved now = (t.modify id (·.touch now), .ok (.existing id))) ∨
    (∃ ports, t.byTuple.get? key = none ∧
      t.ports.allocate t.byPort.contains reserved = (none, ports) ∧
      t.allocate key reserved now = ({ t with ports }, .error .portsExhausted)) ∨
    (∃ port ports, t.byTuple.get? key = none ∧
      t.ports.allocate t.byPort.contains reserved = (some port, ports) ∧
      t.allocate key reserved now =
        ({ t with ports }.create key port now, .ok (.created t.nextId))) := by
  cases hk : t.byTuple.get? key with
  | some id => exact .inl ⟨id, rfl, by simp [allocate, hk]⟩
  | none =>
    rcases hp : t.ports.allocate t.byPort.contains reserved with ⟨_ | port, ports⟩
    · exact .inr (.inl ⟨ports, rfl, rfl, by simp [allocate, hk, hp]⟩)
    · exact .inr (.inr ⟨port, ports, rfl, rfl, by simp [allocate, hk, hp]⟩)

/-- A 4-tuple without a link gets the first free port from the cursor on, and the cursor goes on
behind it. If no port is free, the table stays as it is. -/
lemma allocate_of_vacant (hcursor : t.ports.first ≤ t.ports.last → t.ports.Valid) {key : LinkKey}
    (hkey : t.byTuple.get? key = none) (reserved : List UInt16) (now : Nat) :
    (∃ k < t.ports.capacity, t.FreePort reserved (t.ports.ahead k) ∧
      (∀ j < k, ¬t.FreePort reserved (t.ports.ahead j)) ∧
      t.allocate key reserved now =
        ({ t with ports := { t.ports with cursor := t.ports.ahead (k + 1) } }.create key
          (t.ports.ahead k) now, .ok (.created t.nextId))) ∨
    ((∀ port, ¬t.FreePort reserved port) ∧
      t.allocate key reserved now = (t, .error .portsExhausted)) := by
  have htaken : ∀ port, t.byPort.contains port = true ∨ port ∈ reserved →
      ¬t.FreePort reserved port := by
    rintro port (huse | hreserved) hfree
    · simp [Table.contains, hfree.unused] at huse
    · exact hfree.unreserved hreserved
  rcases PortPool.allocate_exact hcursor t.byPort.contains reserved with
    ⟨k, hk, hbefore, huse, hreserved, hp⟩ | ⟨hall, hp⟩
  · obtain ⟨hfirst, hlast⟩ := PortPool.allocate_mem hcursor hp
    refine .inl ⟨k, hk, ⟨hfirst, hlast, ?_, hreserved⟩, fun j hj => htaken _ (hbefore j hj),
      by simp only [allocate, hkey, hp]⟩
    simpa [Table.contains] using huse
  · exact .inr ⟨fun port hfree => htaken port (hall port hfree.first_le hfree.le_last) hfree,
      by simp only [allocate, hkey, hp]⟩

/-- A link that is closed as itself was live. -/
theorem closeLink?_eq_some {id : LinkId} {t' : LinkTable} {l : Link}
    (h : t.closeLink? id = some (t', l)) :
    t.link? id = some l ∧ t.byTuple.get? l.key = some id ∧ t' = t.drop l := by
  cases hl : t.link? id with
  | none => simp [closeLink?, hl] at h
  | some m =>
    by_cases hk : t.byTuple.get? m.key = some id
    · simp only [closeLink?, hl, hk, Option.bind_eq_bind, Option.bind_some, if_true,
        Option.some.injEq, Prod.mk.injEq] at h
      obtain ⟨rfl, rfl⟩ := h
      exact ⟨rfl, hk, rfl⟩
    · simp [closeLink?, hl, hk] at h

/-- What a request makes of a table, and whether it creates a link. -/
inductive Obeys (t : LinkTable) : LinkRequest → LinkTable → Bool → Prop
  | nothing {r : LinkRequest} : Obeys t r t false
  | inPlace {r : LinkRequest} {id : LinkId} {f : Link → Link} (hf : Link.InPlace f) :
      Obeys t r (t.modify id f) false
  | full {key : LinkKey} {reserved : List UInt16} {now : Nat} {ports : PortPool}
      (hports : t.ports.allocate t.byPort.contains reserved = (none, ports)) :
      Obeys t (.allocate key reserved now) { t with ports } false
  | created {key : LinkKey} {reserved : List UInt16} {now : Nat} {port : UInt16}
      {ports : PortPool} (hkey : t.byTuple.get? key = none)
      (hports : t.ports.allocate t.byPort.contains reserved = (some port, ports)) :
      Obeys t (.allocate key reserved now) ({ t with ports }.create key port now) true
  | closed {key : LinkKey} {l : Link} (hl : t.findTuple key = some l) :
      Obeys t (.close key) (t.drop l) false
  | closedAsItself {id : LinkId} {l : Link} (hl : t.link? id = some l)
      (hkey : t.byTuple.get? l.key = some id) : Obeys t (.closeLink id) (t.drop l) false
  | cleared : Obeys t .clear t.clear.1 false

lemma obeys (t : LinkTable) (r : LinkRequest) : t.Obeys r (t.obey r) (t.creates r) := by
  cases r with
  | allocate key reserved now =>
    rcases t.allocate_cases key reserved now with ⟨id, -, ha⟩ | ⟨ports, -, hports, ha⟩ |
      ⟨port, ports, hkey, hports, ha⟩
    · rw [obey, creates, ha]
      exact .inPlace (Link.inPlace_touch now)
    · rw [obey, creates, ha]
      exact .full hports
    · rw [obey, creates, ha]
      exact .created hkey hports
  | close key =>
    rw [obey, closeTuple?]
    cases hl : t.findTuple key with
    | none => exact .nothing
    | some l => exact .closed hl
  | closeLink id =>
    rw [obey]
    cases hc : t.closeLink? id with
    | none => exact .nothing
    | some result =>
      obtain ⟨hl, hkey, ht⟩ := closeLink?_eq_some hc
      rw [Option.map_some, Option.getD_some, ht]
      exact .closedAsItself hl hkey
  | clear => exact .cleared
  | change id f hf => exact .inPlace hf

/-- A request leaves the pool as it is or draws a port from it, and the identities go on by the
links that it creates. -/
lemma obey_draws (t : LinkTable) (r : LinkRequest) : (t.obey r).gateway = t.gateway ∧
    (t.obey r).nextId = t.nextId + .ofNat (t.creates r).toNat ∧
    ((t.obey r).ports = t.ports ∨ ∃ inUse reserved,
      (t.obey r).ports = (t.ports.allocate inUse reserved).2) := by
  have hnone : t.nextId = t.nextId + .ofNat false.toNat := (UInt64.add_zero _).symm
  have ho := t.obeys r
  generalize t.obey r = t', t.creates r = c at ho ⊢
  cases ho with
  | full hports => exact ⟨rfl, hnone, .inr ⟨_, _, by rw [hports]⟩⟩
  | created _ hports => exact ⟨rfl, rfl, .inr ⟨_, _, by rw [hports]; rfl⟩⟩
  | nothing | inPlace | closed | closedAsItself | cleared => exact ⟨rfl, hnone, .inl rfl⟩

theorem obey_range (t : LinkTable) (r : LinkRequest) : (t.obey r).gateway = t.gateway ∧
    (t.obey r).ports.first = t.ports.first ∧ (t.obey r).ports.last = t.ports.last := by
  obtain ⟨hgateway, -, hports | ⟨inUse, reserved, hports⟩⟩ := t.obey_draws r
  · rw [hports]
    exact ⟨hgateway, rfl, rfl⟩
  · rw [hports]
    exact ⟨hgateway, PortPool.first_search .., PortPool.last_search ..⟩

theorem run_range (t : LinkTable) (requests : List LinkRequest) :
    (t.run requests).gateway = t.gateway ∧ (t.run requests).ports.first = t.ports.first ∧
      (t.run requests).ports.last = t.ports.last := by
  induction requests generalizing t with
  | nil => exact ⟨rfl, rfl, rfl⟩
  | cons r rest ih =>
    obtain ⟨h1, h2, h3⟩ := t.obey_range r
    obtain ⟨i1, i2, i3⟩ := ih (t.obey r)
    exact ⟨i1.trans h1, i2.trans h2, i3.trans h3⟩

lemma valid_run {t : LinkTable} (h : t.ports.Valid) (requests : List LinkRequest) :
    (t.run requests).ports.Valid := by
  induction requests generalizing t with
  | nil => exact h
  | cons r rest ih =>
    refine ih ?_
    obtain ⟨-, -, hports | ⟨inUse, reserved, hports⟩⟩ := t.obey_draws r
    · rw [hports]
      exact h
    · rw [hports]
      exact h.search ..

/-- The next identity tells how many links were created. -/
lemma nextId_run (t : LinkTable) (requests : List LinkRequest) :
    (t.run requests).nextId = t.nextId + .ofNat (t.creations requests) := by
  induction requests generalizing t with
  | nil => exact (UInt64.add_zero _).symm
  | cons r rest ih =>
    have hrest : (t.run (r :: rest)).nextId =
        (t.obey r).nextId + .ofNat ((t.obey r).creations rest) := ih (t.obey r)
    rw [hrest, (t.obey_draws r).2.1, creations, UInt64.ofNat_add, UInt64.add_assoc]

lemma findTuple_eq {k : LinkKey} {id : LinkId} {l : Link} (hk : t.byTuple.get? k = some id)
    (hl : t.link? id = some l) : t.findTuple k = some l := by
  rw [findTuple, hk]
  exact hl

/-- A link that is known after a request was known before, with the same identity and
endpoints, or the request created it. -/
theorem link?_obey {r : LinkRequest} {id : LinkId} {l : Link}
    (h : (t.obey r).link? id = some l) :
    (∃ m, t.link? id = some m ∧ l.ends = m.ends) ∨
    (∃ key reserved now port, r = .allocate key reserved now ∧ id = t.nextId ∧
      l = t.fresh key port now) := by
  have hmodify : ∀ (j : LinkId) (f : Link → Link), (∀ m, (f m).ends = m.ends) →
      (t.modify j f).link? id = some l → ∃ m, t.link? id = some m ∧ l.ends = m.ends := by
    intro j f hf hl
    obtain ⟨m, hm, rfl | rfl⟩ := link?_modify_eq_some hl
    · exact ⟨m, hm, hf m⟩
    · exact ⟨l, hm, rfl⟩
  have ho := t.obeys r
  generalize t.obey r = t', t.creates r = c at ho h
  cases ho with
  | nothing | full => exact .inl ⟨l, h, rfl⟩
  | inPlace hf => exact .inl (hmodify _ _ hf.ends h)
  | @created key reserved now port ports _ _ =>
    rcases link?_create_eq_some h with ⟨hid, hl⟩ | ⟨-, hl⟩
    · exact .inr ⟨key, reserved, now, port, rfl, hid, hl⟩
    · exact .inl ⟨l, hl, rfl⟩
  | closed | closedAsItself => exact .inl (hmodify _ _ Link.ends_dispose h)
  | cleared =>
    rw [link?_clear] at h
    split at h
    · obtain ⟨m, hm, rfl⟩ := Option.map_eq_some_iff.mp h
      exact .inl ⟨m, hm, rfl⟩
    · exact .inl ⟨l, h, rfl⟩

end Views

/-- Links are known by their identities. -/
def Labelled (t : LinkTable) : Prop := ∀ id l, t.link? id = some l → l.id = id

/-- What the index by 4-tuples leads to is known. -/
def Backed (t : LinkTable) : Prop :=
  ∀ k id, t.byTuple.get? k = some id → (t.link? id).isSome = true

/-- No link leads to an address. -/
def Avoids (t : LinkTable) (ip : Ipv4) : Prop :=
  ∀ id l, t.link? id = some l → l.destination.ip ≠ ip

lemma Labelled.obey {t : LinkTable} (h : t.Labelled) (r : LinkRequest) : (t.obey r).Labelled := by
  intro id l hl
  rcases link?_obey hl with ⟨m, hm, he⟩ | ⟨key, _, now, port, -, hid, rfl⟩
  · rw [(Link.ends_eq_iff.mp he).1]
    exact h id m hm
  · exact hid.symm

lemma Labelled.run {t : LinkTable} (h : t.Labelled) (requests : List LinkRequest) :
    (t.run requests).Labelled := by
  induction requests generalizing t with
  | nil => exact h
  | cons r rest ih => exact ih (h.obey r)

section Backed

variable {t : LinkTable}

lemma isSome_link?_modify (j id : LinkId) (f : Link → Link) :
    ((t.modify j f).link? id).isSome = (t.link? id).isSome := by
  rw [link?_modify]
  split
  · rw [Option.isSome_map]
  · rfl

lemma Backed.modify (h : t.Backed) (j : LinkId) (f : Link → Link) : (t.modify j f).Backed := by
  intro k id hk
  rw [isSome_link?_modify]
  exact h k id hk

lemma Backed.drop (h : t.Backed) (l : Link) : (t.drop l).Backed := by
  intro k id hk
  rw [byTuple_drop] at hk
  split at hk
  · cases hk
  · exact h.modify l.id Link.dispose k id hk

lemma Backed.create (h : t.Backed) (key : LinkKey) (port : UInt16) (now : Nat) :
    (t.create key port now).Backed := by
  intro k id hk
  rw [link?_create]
  split
  · rfl
  · rename_i hid
    rw [byTuple_create] at hk
    split at hk
    · exact absurd (Option.some.inj hk).symm hid
    · exact h k id hk

lemma Backed.obey (h : t.Backed) (r : LinkRequest) : (t.obey r).Backed := by
  have ho := t.obeys r
  generalize t.obey r = t', t.creates r = c at ho ⊢
  cases ho with
  | nothing | full => exact h
  | inPlace => exact h.modify _ _
  | created => exact Backed.create (t := { t with ports := _ }) h _ _ _
  | closed | closedAsItself => exact h.drop _
  | cleared =>
    intro k id hk
    cases hk

lemma Backed.run (h : t.Backed) (requests : List LinkRequest) : (t.run requests).Backed := by
  induction requests generalizing t with
  | nil => exact h
  | cons r rest ih => exact ih (h.obey r)

end Backed

lemma Avoids.obey {t : LinkTable} {ip : Ipv4} (h : t.Avoids ip) {r : LinkRequest}
    (hr : r.Admissible ip) : (t.obey r).Avoids ip := by
  intro id l hl
  rcases link?_obey hl with ⟨m, hm, he⟩ | ⟨key, _, now, port, rfl, -, rfl⟩
  · rw [(Link.ends_eq_iff.mp he).2.2.1]
    exact h id m hm
  · exact hr

lemma Avoids.run {t : LinkTable} {ip : Ipv4} (h : t.Avoids ip) {requests : List LinkRequest}
    (hr : ∀ r ∈ requests, r.Admissible ip) : (t.run requests).Avoids ip := by
  induction requests generalizing t with
  | nil => exact h
  | cons r rest ih =>
    rw [List.forall_mem_cons] at hr
    exact ih (h.obey hr.1) hr.2

lemma run_append (t : LinkTable) (xs ys : List LinkRequest) :
    t.run (xs ++ ys) = (t.run xs).run ys := List.foldl_append ..

lemma creations_append (t : LinkTable) (xs ys : List LinkRequest) :
    t.creations (xs ++ ys) = t.creations xs + (t.run xs).creations ys := by
  induction xs generalizing t with
  | nil => exact (Nat.zero_add _).symm
  | cons r rest ih =>
    rw [List.cons_append, creations, creations, ih, Nat.add_assoc]
    rfl

end LinkTable

end GuestNat
