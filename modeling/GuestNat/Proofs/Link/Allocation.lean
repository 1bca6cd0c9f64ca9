import GuestNat.Proofs.Link.Consistency

/-!
# What a request for a link comes to

The table decides which of three answers a request for the link of a 4-tuple gets. If the 4-tuple
has a link, that link is the answer, whatever the host uses and wherever the cursor is
(`allocate_of_findTuple`). Otherwise a link is made at the first free port from the cursor on; and
if there is none, the table stays as it is, for a search through the whole range brings the cursor
back to where it was (`allocate_of_vacant`). `allocation_is_exact` says so of every table that
requests lead to.
-/
namespace GuestNat.LinkTable

variable {t : LinkTable} {key : LinkKey}

lemma Backed.byTuple_eq_none (h : t.Backed) (hnone : t.findTuple key = none) :
    t.byTuple.get? key = none := by
  cases hk : t.byTuple.get? key with
  | none => rfl
  | some id =>
    rw [findTuple, hk, Option.bind_eq_bind, Option.bind_some] at hnone
    have hknown := h key id hk
    rw [hnone] at hknown
    cases hknown

/-- The link of a 4-tuple is found again, and nothing changes but when it was active. -/
lemma allocate_of_findTuple (h : t.Labelled) {l : Link} (hl : t.findTuple key = some l)
    (reserved : List UInt16) (now : Nat) :
    ∃ links, t.allocate key reserved now = ({ t with links }, .ok (.existing l.id)) ∧
      ∀ id, links.get? id =
        if id = l.id then some { l with lastActive := max l.lastActive now } else t.link? id := by
  obtain ⟨id, hk, hid⟩ := Option.bind_eq_some_iff.mp hl
  obtain rfl := h id l hid
  refine ⟨t.links.modify l.id (·.touch now), by simp only [allocate, hk, modify], fun j => ?_⟩
  have hmodify := link?_modify (t := t) l.id j (·.touch now)
  split_ifs at hmodify ⊢ with hj
  · rw [hj, hid] at hmodify
    rw [hj]
    exact hmodify
  · exact hmodify

lemma find_create (port : UInt16) (now : Nat) :
    (t.create key port now).findTuple key = some (t.fresh key port now) ∧
      (t.create key port now).findPort port = some (t.fresh key port now) := by
  have hlink : (t.create key port now).link? t.nextId = some (t.fresh key port now) := by
    rw [link?_create, if_pos rfl]
  constructor
  · exact findTuple_eq (by rw [byTuple_create, if_pos rfl]) hlink
  · rw [findPort, byPort_create, if_pos rfl]
    exact hlink

/-- In every table that requests lead to, a request for the link of a 4-tuple gives the answer that
the table determines. If the 4-tuple has a link, that link is found again; the ports that the host
uses and the pool do not matter, and nothing changes but when the link was active. Otherwise, if a
port is free, a link is made at the first that is free in cyclic order from the cursor, under the
next identity, and the cursor goes on behind the port. If none is free, the request fails and the
table is as it was. The next identity counts the links that were made, and no link has it as long
as there are fewer than 2⁶⁴. Whatever the range is, the cursor goes round in it. -/
theorem allocation_is_exact (gateway : Ipv4) (first last : UInt16) (requests : List LinkRequest)
    (key : LinkKey) (reserved : List UInt16) (now : Nat) :
    let start := ofRange gateway first last
    let t := start.run requests
    (∀ l, t.findTuple key = some l → ∀ ports others, ∃ links,
      { t with ports }.allocate key others now = ({ t with ports, links }, .ok (.existing l.id)) ∧
      ∀ id, links.get? id =
        if id = l.id then some { l with lastActive := max l.lastActive now } else t.link? id) ∧
    (t.findTuple key = none → (∃ port, t.FreePort reserved port) →
      ∃ k t', k < t.ports.capacity ∧ t.FreePort reserved (t.ports.ahead k) ∧
        (∀ j < k, ¬t.FreePort reserved (t.ports.ahead j)) ∧
        t.allocate key reserved now = (t', .ok (.created t.nextId)) ∧
        t' = { t with ports := { t.ports with cursor := t.ports.ahead (k + 1) } }.create key
          (t.ports.ahead k) now ∧
        t'.ports.cursor = t.ports.ahead (k + 1) ∧
        t'.findTuple key = some (t.fresh key (t.ports.ahead k) now) ∧
        t'.findPort (t.ports.ahead k) = some (t.fresh key (t.ports.ahead k) now)) ∧
    (t.findTuple key = none → (∀ port, ¬t.FreePort reserved port) →
      t.allocate key reserved now = (t, .error .portsExhausted)) ∧
    t.nextId = .ofNat (start.creations requests + 1) ∧
    (start.creations requests + 1 < UInt64.size → ∀ id l, t.link? id = some l → id ≠ t.nextId) ∧
    t.ports.first = first ∧ t.ports.last = last ∧ (first ≤ last → t.ports.GoesRound) := by
  intro start t
  obtain ⟨-, hfirst, hlast⟩ := run_range start requests
  have hvalid : first ≤ last → t.ports.Valid := fun hle =>
    valid_run (PortPool.valid_ofRange hle) requests
  have hcursor : t.ports.first ≤ t.ports.last → t.ports.Valid := fun hle =>
    hvalid (by rwa [hfirst, hlast] at hle)
  have hlabelled : t.Labelled := Labelled.run (by intro id l hl; cases hl) requests
  have hbacked : t.Backed := Backed.run (by intro k id hk; cases hk) requests
  refine ⟨fun l hl ports others => ?_, fun hnone hfree => ?_, fun hnone hfull => ?_, ?_,
    fun hn id l hl => ?_, hfirst, hlast, fun hle => (hvalid hle).goesRound⟩
  · exact allocate_of_findTuple (t := { t with ports }) hlabelled hl others now
  · rcases allocate_of_vacant hcursor (hbacked.byTuple_eq_none hnone) reserved now with
      ⟨k, hk, hat, hbefore, ha⟩ | ⟨hfull, -⟩
    · exact ⟨k, _, hk, hat, hbefore, ha, rfl, rfl, find_create (t.ports.ahead k) now⟩
    · obtain ⟨port, hport⟩ := hfree
      exact absurd hport (hfull port)
  · rcases allocate_of_vacant hcursor (hbacked.byTuple_eq_none hnone) reserved now with
      ⟨k, -, hat, -⟩ | ⟨-, ha⟩
    · exact absurd hat (hfull _)
    · exact ha
  · rw [nextId_run, Nat.add_comm, UInt64.ofNat_add]
    rfl
  · have hrun := (Consistent.ofRange gateway first last).run requests
      (by rw [Nat.zero_add]; exact Nat.lt_of_succ_lt hn)
    rw [Nat.zero_add] at hrun
    exact hrun.ne_nextId hn hl

/-- The ports are 65534 and 65535, both were given out, so that the cursor has gone round, and the
first was closed. While the host uses it a request fails; otherwise it is given out once more, and
the cursor is on the second again, whose link is found whatever the host uses, and was active when
it was asked for. -/
theorem allocation_is_exact_wrapped :
    let key (port : UInt16) : LinkKey := (⟨⟨10, 0, 0, 5⟩, port⟩, ⟨⟨93, 184, 216, 34⟩, 80⟩)
    let requests : List LinkRequest :=
      [.allocate (key 1) [] 0, .allocate (key 2) [] 1, .close (key 1)]
    let t := (ofRange ⟨10, 0, 0, 2⟩ 65534 65535).run requests
    t.ports.cursor = 65534 ∧ t.ports.GoesRound ∧
      t.allocate (key 3) [65534] 9 = (t, .error .portsExhausted) ∧
      (∃ t', t.allocate (key 3) [] 9 = (t', .ok (.created 3)) ∧ t'.ports.cursor = 65535 ∧
        (t'.findPort 65534).map Link.key = some (key 3)) ∧
      ∀ ports others, ∃ links, { t with ports }.allocate (key 2) others 9 =
        ({ t with ports, links }, .ok (.existing 2)) ∧
          (links.get? 2).map Link.lastActive = some 9 := by
  intro key requests t
  have hnext : t.nextId = 3 := by decide +kernel
  have hfirst : t.ports.ahead 0 = 65534 := by decide +kernel
  have hsecond : t.ports.ahead (0 + 1) = 65535 := by decide +kernel
  have hrange : ∀ port, t.ports.first ≤ port → port ≤ t.ports.last →
      port = 65534 ∨ port = 65535 := by
    intro port hge hle
    have hends : t.ports.first.toNat = 65534 ∧ t.ports.last.toNat = 65535 := by decide +kernel
    have hge := UInt16.le_iff_toNat_le.mp hge
    have hle := UInt16.le_iff_toNat_le.mp hle
    have hport : port.toNat = 65534 ∨ port.toNat = 65535 := by omega
    exact hport.imp UInt16.toNat_inj.mp UInt16.toNat_inj.mp
  obtain ⟨-, -, hfull, -, -, -, -, hround⟩ :=
    allocation_is_exact ⟨10, 0, 0, 2⟩ 65534 65535 requests (key 3) [65534] 9
  obtain ⟨-, hfree, -⟩ := allocation_is_exact ⟨10, 0, 0, 2⟩ 65534 65535 requests (key 3) [] 9
  obtain ⟨hfound, -⟩ := allocation_is_exact ⟨10, 0, 0, 2⟩ 65534 65535 requests (key 2) [] 9
  refine ⟨by decide +kernel, hround (by decide), hfull (by decide +kernel) ?_, ?_, ?_⟩
  · intro port (hport : t.FreePort [65534] port)
    rcases hrange port hport.first_le hport.le_last with hat | hat
    · exact hport.unreserved (List.mem_singleton.mpr hat)
    · have hused : t.byPort.get? 65535 = some 2 := by decide +kernel
      have hunused := hport.unused
      rw [hat, hused] at hunused
      cases hunused
  · have hat : t.FreePort [] (t.ports.ahead 0) := by
      rw [hfirst]
      exact ⟨by decide +kernel, by decide +kernel, by decide +kernel, by decide⟩
    obtain ⟨k, t', -, -, hbefore, ha, -, hcursor, -, hport⟩ := hfree (by decide +kernel) ⟨_, hat⟩
    obtain rfl : k = 0 := by
      by_contra hk
      exact hbefore 0 (Nat.pos_of_ne_zero hk) hat
    rw [hnext] at ha
    rw [hfirst] at hport
    exact ⟨t', ha, hcursor.trans hsecond, congrArg (Option.map Link.key) hport⟩
  · intro ports others
    have hknown : (t.findTuple (key 2)).map (fun l => (l.id, l.lastActive)) = some (2, 1) := by
      decide +kernel
    obtain ⟨l, hl, hl'⟩ := Option.map_eq_some_iff.mp hknown
    obtain ⟨hid, hactive⟩ := Prod.mk.inj hl'
    obtain ⟨links, ha, hlinks⟩ := hfound l hl ports others
    rw [hid] at ha
    refine ⟨links, ha, ?_⟩
    rw [hlinks 2, if_pos hid.symm, Option.map_some, hactive]
    rfl

end GuestNat.LinkTable
