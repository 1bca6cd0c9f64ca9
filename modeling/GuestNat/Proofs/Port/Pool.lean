import GuestNat.Port.Pool
import Mathlib.Order.Basic

/-!
# A pool stays in its range

The cursor of a pool moves through its range and nowhere else, so a port that is
handed out is one of the range, and it is not taken. An empty range has nothing to
hand out. The ports come in cyclic order from the cursor (`PortPool.ahead`), which meets
every port of the range once and goes up by one but where it wraps (`PortPool.GoesRound`); so
a search finds the first that is not taken, and one that finds none leaves the cursor where it
was (`PortPool.allocate_exact`).
-/
namespace GuestNat.PortPool

/-- The cursor lies in the range. -/
structure Valid (p : PortPool) : Prop where
  first_le : p.first ≤ p.cursor
  le_last : p.cursor ≤ p.last

lemma Valid.nonempty {p : PortPool} (h : p.Valid) : p.first ≤ p.last := by
  have h1 := UInt16.le_iff_toNat_le.mp h.first_le
  have h2 := UInt16.le_iff_toNat_le.mp h.le_last
  exact UInt16.le_iff_toNat_le.mpr (by omega)

lemma valid_ofRange {first last : UInt16} (h : first ≤ last) : (ofRange first last).Valid :=
  ⟨UInt16.le_iff_toNat_le.mpr (by simp [ofRange]), h⟩

@[simp] theorem first_advance (p : PortPool) : p.advance.first = p.first := rfl

@[simp] theorem last_advance (p : PortPool) : p.advance.last = p.last := rfl

/-- The cursor goes up by one as a number, and from the last port to the first. -/
lemma toNat_advance {p : PortPool} (h : p.Valid) : p.advance.cursor.toNat =
    if p.cursor = p.last then p.first.toNat else p.cursor.toNat + 1 := by
  have hlast := UInt16.le_iff_toNat_le.mp h.le_last
  have hbound := p.last.toNat_lt
  split_ifs with hwrap
  · have hcursor : p.advance.cursor = p.first := by simp [PortPool.advance, hwrap]
    rw [hcursor]
  · have hne := mt UInt16.toNat_inj.mp hwrap
    have hbelow : ¬p.last ≤ p.cursor := by
      rw [UInt16.le_iff_toNat_le]
      omega
    simp only [PortPool.advance, if_neg hbelow, UInt16.toNat_add, UInt16.toNat_one]
    omega

lemma Valid.advance {p : PortPool} (h : p.Valid) : p.advance.Valid := by
  have hfirst := UInt16.le_iff_toNat_le.mp h.first_le
  have hlast := UInt16.le_iff_toNat_le.mp h.le_last
  have hcursor := toNat_advance h
  split_ifs at hcursor with hwrap
  · exact ⟨by rw [UInt16.toNat_inj.mp hcursor]; exact UInt16.le_iff_toNat_le.mpr (Nat.le_refl _),
      by rw [UInt16.toNat_inj.mp hcursor]; exact h.nonempty⟩
  · have hne := mt UInt16.toNat_inj.mp hwrap
    exact ⟨UInt16.le_iff_toNat_le.mpr (by rw [hcursor, first_advance]; omega),
      UInt16.le_iff_toNat_le.mpr (by rw [hcursor, last_advance]; omega)⟩

@[simp] theorem first_search (p : PortPool) (taken : UInt16 → Bool) (n : Nat) :
    (p.search taken n).2.first = p.first := by
  induction n generalizing p with
  | zero => rfl
  | succ n ih =>
    simp only [search]
    split
    · exact ih p.advance
    · rfl

@[simp] theorem last_search (p : PortPool) (taken : UInt16 → Bool) (n : Nat) :
    (p.search taken n).2.last = p.last := by
  induction n generalizing p with
  | zero => rfl
  | succ n ih =>
    simp only [search]
    split
    · exact ih p.advance
    · rfl

lemma Valid.search {p : PortPool} (h : p.Valid) (taken : UInt16 → Bool) (n : Nat) :
    (p.search taken n).2.Valid := by
  induction n generalizing p with
  | zero => exact h
  | succ n ih =>
    simp only [PortPool.search]
    split
    · exact ih h.advance
    · exact h.advance

lemma search_free {p : PortPool} {taken : UInt16 → Bool} {n : Nat} {port : UInt16}
    (h : (p.search taken n).1 = some port) : taken port = false := by
  induction n generalizing p with
  | zero => simp [search] at h
  | succ n ih =>
    by_cases ht : taken p.cursor = true
    · simp only [search, ht, if_true] at h
      exact ih h
    · simp only [search, ht, Bool.false_eq_true, if_false, Option.some.injEq] at h
      subst h
      simpa using ht

lemma Valid.of_search {p : PortPool} (h : p.Valid) {taken : UInt16 → Bool} {n : Nat}
    {port : UInt16} (hs : (p.search taken n).1 = some port) :
    p.first ≤ port ∧ port ≤ p.last := by
  induction n generalizing p with
  | zero => simp [PortPool.search] at hs
  | succ n ih =>
    by_cases ht : taken p.cursor = true
    · simp only [PortPool.search, ht, if_true] at hs
      simpa using ih h.advance hs
    · simp only [PortPool.search, ht, Bool.false_eq_true, if_false, Option.some.injEq] at hs
      subst hs
      exact ⟨h.first_le, h.le_last⟩

/-- The port that comes a number of places behind the one at the cursor, in cyclic order. -/
def ahead (p : PortPool) (k : Nat) : UInt16 :=
  .ofNat (p.first.toNat + (p.cursor.toNat - p.first.toNat + k) % p.capacity)

section Cycle

variable {p : PortPool}

lemma capacity_pos (h : p.Valid) : 0 < p.capacity := by
  have hle := UInt16.le_iff_toNat_le.mp h.nonempty
  rw [capacity]
  omega

lemma toNat_ahead (h : p.Valid) (k : Nat) : (p.ahead k).toNat =
    p.first.toNat + (p.cursor.toNat - p.first.toNat + k) % p.capacity := by
  have hlast := p.last.toNat_lt
  have hmod := Nat.mod_lt (p.cursor.toNat - p.first.toNat + k) (capacity_pos h)
  rw [ahead, UInt16.toNat_ofNat', Nat.mod_eq_of_lt]
  rw [capacity] at hmod ⊢
  omega

lemma ahead_zero (h : p.Valid) : p.ahead 0 = p.cursor := by
  have hfirst := UInt16.le_iff_toNat_le.mp h.first_le
  have hlast := UInt16.le_iff_toNat_le.mp h.le_last
  have hlt : p.cursor.toNat - p.first.toNat < p.capacity := by
    rw [capacity]
    omega
  apply UInt16.toNat_inj.mp
  rw [toNat_ahead h, Nat.add_zero, Nat.mod_eq_of_lt hlt]
  omega

lemma ahead_advance (h : p.Valid) (k : Nat) : p.advance.ahead k = p.ahead (k + 1) := by
  have hfirst := UInt16.le_iff_toNat_le.mp h.first_le
  have hcapacity : p.advance.capacity = p.capacity := rfl
  apply UInt16.toNat_inj.mp
  rw [toNat_ahead h.advance, toNat_ahead h, first_advance, hcapacity, toNat_advance h]
  congr 1
  split_ifs with hwrap
  · have hwhole : p.cursor.toNat - p.first.toNat + (k + 1) = k + p.capacity := by
      rw [capacity, hwrap]
      rw [hwrap] at hfirst
      omega
    rw [hwhole, Nat.add_mod_right, Nat.sub_self, Nat.zero_add]
  · congr 1
    omega

lemma ahead_mem (h : p.Valid) (k : Nat) : p.first ≤ p.ahead k ∧ p.ahead k ≤ p.last := by
  have hmod := Nat.mod_lt (p.cursor.toNat - p.first.toNat + k) (capacity_pos h)
  rw [UInt16.le_iff_toNat_le, UInt16.le_iff_toNat_le, toNat_ahead h]
  rw [capacity] at hmod ⊢
  omega

lemma cursor_advance_ahead (h : p.Valid) (k : Nat) :
    ({ p with cursor := p.ahead k } : PortPool).advance.cursor = p.ahead (k + 1) := by
  induction k generalizing p with
  | zero => rw [← ahead_advance h, ahead_zero h, ahead_zero h.advance]
  | succ k ih =>
    rw [← ahead_advance h, ← ahead_advance h]
    exact ih h.advance

/-- The cursor goes round the range: from a port to the one after it as a number, with no port
beyond 65535, and from the last port to the first. -/
structure GoesRound (p : PortPool) : Prop where
  start : p.ahead 0 = p.cursor
  mem : ∀ k, p.first ≤ p.ahead k ∧ p.ahead k ≤ p.last
  step : ∀ k, ({ p with cursor := p.ahead k } : PortPool).advance.cursor = p.ahead (k + 1)
  next : ∀ k, (p.ahead (k + 1)).toNat =
    if p.ahead k = p.last then p.first.toNat else (p.ahead k).toNat + 1
  size : p.capacity = (p.last - p.first).toNat + 1

lemma Valid.goesRound (h : p.Valid) : p.GoesRound where
  start := ahead_zero h
  mem := ahead_mem h
  step := cursor_advance_ahead h
  next := fun k => by
    rw [← cursor_advance_ahead h]
    exact toNat_advance ⟨(ahead_mem h k).1, (ahead_mem h k).2⟩
  size := by
    rw [UInt16.toNat_sub_of_le _ _ h.nonempty, capacity]
    have hle := UInt16.le_iff_toNat_le.mp h.nonempty
    omega

/-- The order comes round after as many places as there are ports. -/
lemma ahead_capacity (h : p.Valid) : p.ahead p.capacity = p.cursor := by
  rw [← ahead_zero h]
  apply UInt16.toNat_inj.mp
  rw [toNat_ahead h, toNat_ahead h, Nat.add_mod_right, Nat.add_zero]

lemma exists_ahead_eq (h : p.Valid) {port : UInt16} (hfirst : p.first ≤ port)
    (hlast : port ≤ p.last) : ∃ k < p.capacity, p.ahead k = port := by
  have h₁ := UInt16.le_iff_toNat_le.mp h.first_le
  have h₂ := UInt16.le_iff_toNat_le.mp h.le_last
  have h₃ := UInt16.le_iff_toNat_le.mp hfirst
  have h₄ := UInt16.le_iff_toNat_le.mp hlast
  by_cases hbehind : p.cursor.toNat ≤ port.toNat
  · refine ⟨port.toNat - p.cursor.toNat, by rw [capacity]; omega, ?_⟩
    apply UInt16.toNat_inj.mp
    rw [toNat_ahead h, Nat.mod_eq_of_lt (by rw [capacity]; omega)]
    omega
  · refine ⟨p.capacity - (p.cursor.toNat - port.toNat), by rw [capacity]; omega, ?_⟩
    have hwhole : p.cursor.toNat - p.first.toNat +
        (p.capacity - (p.cursor.toNat - port.toNat)) =
          port.toNat - p.first.toNat + p.capacity := by
      rw [capacity]
      omega
    apply UInt16.toNat_inj.mp
    rw [toNat_ahead h, hwhole, Nat.add_mod_right, Nat.mod_eq_of_lt (by rw [capacity]; omega)]
    omega

/-- A search finds the first port that is not taken, and goes on behind it; or everything that
it tries is taken. -/
lemma search_cases (h : p.Valid) (taken : UInt16 → Bool) (n : Nat) :
    (∃ k < n, (∀ j < k, taken (p.ahead j) = true) ∧ taken (p.ahead k) = false ∧
      p.search taken n = (some (p.ahead k), { p with cursor := p.ahead (k + 1) })) ∨
    ((∀ k < n, taken (p.ahead k) = true) ∧
      p.search taken n = (none, { p with cursor := p.ahead n })) := by
  induction n generalizing p with
  | zero =>
    refine .inr ⟨nofun, ?_⟩
    rw [ahead_zero h]
    rfl
  | succ n ih =>
    cases ht : taken p.cursor with
    | false =>
      refine .inl ⟨0, Nat.succ_pos n, nofun, by rwa [ahead_zero h], ?_⟩
      rw [search, ht, if_neg Bool.false_ne_true, ← ahead_advance h, ahead_zero h,
        ahead_zero h.advance]
      rfl
    | true =>
      have hsearch : p.search taken (n + 1) = p.advance.search taken n := by
        rw [search, if_pos ht]
      -- What the rest of the search tries comes one place later.
      have hlater : ∀ k, (∀ j < k, taken (p.advance.ahead j) = true) →
          ∀ j < k + 1, taken (p.ahead j) = true := by
        intro k hk j hj
        cases j with
        | zero => rwa [ahead_zero h]
        | succ j =>
          rw [← ahead_advance h]
          exact hk j (Nat.lt_of_succ_lt_succ hj)
      rw [hsearch]
      rcases ih h.advance with ⟨k, hk, hbefore, hfree, heq⟩ | ⟨hall, heq⟩
      · refine .inl ⟨k + 1, Nat.succ_lt_succ hk, hlater k hbefore, ?_, ?_⟩
        · rwa [← ahead_advance h]
        · rw [heq, ahead_advance h, ahead_advance h]
          rfl
      · refine .inr ⟨hlater n hall, ?_⟩
        rw [heq, ahead_advance h]
        rfl

end Cycle

section Allocate

variable {p q : PortPool} {inUse : UInt16 → Bool} {reserved : List UInt16}

lemma allocate_range {port : Option UInt16} (h : p.allocate inUse reserved = (port, q)) :
    q.first = p.first ∧ q.last = p.last ∧ (p.Valid → q.Valid) := by
  have hq : q = (p.allocate inUse reserved).2 := by rw [h]
  subst hq
  exact ⟨first_search .., last_search .., fun hv => hv.search ..⟩

lemma allocate_free {port : UInt16} (h : p.allocate inUse reserved = (some port, q)) :
    inUse port = false := by
  have hs : (p.allocate inUse reserved).1 = some port := by rw [h]
  have hfree := search_free hs
  simp only [Bool.or_eq_false_iff] at hfree
  exact hfree.1

lemma allocate_mem {port : UInt16} (hp : p.first ≤ p.last → p.Valid)
    (h : p.allocate inUse reserved = (some port, q)) : p.first ≤ port ∧ port ≤ p.last := by
  have hs : (p.search (fun port => inUse port || reserved.contains port) p.capacity).1 =
      some port := by
    change (p.allocate inUse reserved).1 = some port
    rw [h]
  have hn : p.first ≤ p.last := by
    by_contra hlt
    have hz : p.capacity = 0 := by
      have := mt UInt16.le_iff_toNat_le.mpr hlt
      simp only [capacity]
      omega
    simp [hz, search] at hs
  exact (hp hn).of_search hs

/-- The port that is drawn is the first from the cursor on that is neither in use nor reserved,
and the cursor goes on behind it. If every port of the range is in use or reserved, none is
drawn and the pool is as before. -/
theorem allocate_exact (hp : p.first ≤ p.last → p.Valid) (inUse : UInt16 → Bool)
    (reserved : List UInt16) :
    (∃ k < p.capacity,
      (∀ j < k, inUse (p.ahead j) = true ∨ p.ahead j ∈ reserved) ∧
      inUse (p.ahead k) = false ∧ p.ahead k ∉ reserved ∧
      p.allocate inUse reserved = (some (p.ahead k), { p with cursor := p.ahead (k + 1) })) ∨
    ((∀ port, p.first ≤ port → port ≤ p.last → inUse port = true ∨ port ∈ reserved) ∧
      p.allocate inUse reserved = (none, p)) := by
  have htaken : ∀ port, (inUse port || reserved.contains port) = true ↔
      inUse port = true ∨ port ∈ reserved := by simp
  have hfree : ∀ port, (inUse port || reserved.contains port) = false ↔
      inUse port = false ∧ port ∉ reserved := by simp
  by_cases hn : p.first ≤ p.last
  · have h := hp hn
    rcases search_cases h (fun port => inUse port || reserved.contains port) p.capacity with
      ⟨k, hk, hbefore, hat, heq⟩ | ⟨hall, heq⟩
    · obtain ⟨huse, hreserved⟩ := (hfree _).mp hat
      exact .inl ⟨k, hk, fun j hj => (htaken _).mp (hbefore j hj), huse, hreserved, heq⟩
    · refine .inr ⟨fun port hfirst hlast => ?_, ?_⟩
      · obtain ⟨k, hk, rfl⟩ := exists_ahead_eq h hfirst hlast
        exact (htaken _).mp (hall k hk)
      · rw [ahead_capacity h] at heq
        exact heq
  · have hempty : p.capacity = 0 := by
      have := mt UInt16.le_iff_toNat_le.mpr hn
      rw [capacity]
      omega
    refine .inr ⟨fun port hfirst hlast => ?_, ?_⟩
    · have h₁ := UInt16.le_iff_toNat_le.mp hfirst
      have h₂ := UInt16.le_iff_toNat_le.mp hlast
      exact absurd (UInt16.le_iff_toNat_le.mpr (Nat.le_trans h₁ h₂)) hn
    · rw [allocate, nextFree, hempty]
      rfl

end Allocate

end GuestNat.PortPool
