/-!
# Finite tables

A table is a list of entries with pairwise distinct keys, kept in the order in
which the keys were first inserted. Lookup is the view: each operation has one
lemma that says what it does to `get?`, and one that says what it does to `size`.
-/
namespace GuestNat

universe u v

/-- A finite map from keys to values, in insertion order. -/
structure Table (κ : Type u) (α : Type v) where
  entries : List (κ × α)
  distinct : (entries.map Prod.fst).Nodup

namespace Table

variable {κ : Type u} {α : Type v}

def empty : Table κ α := ⟨[], .nil⟩

instance : Inhabited (Table κ α) := ⟨empty⟩

/-- The keys, in insertion order. -/
def keys (t : Table κ α) : List κ := t.entries.map Prod.fst

/-- The values, in the order of their keys. -/
def values (t : Table κ α) : List α := t.entries.map Prod.snd

def size (t : Table κ α) : Nat := t.entries.length

def filter (keep : κ → α → Bool) (t : Table κ α) : Table κ α where
  entries := t.entries.filter fun e => keep e.1 e.2
  distinct := (List.filter_sublist.map Prod.fst).nodup t.distinct

section Lookup

variable [DecidableEq κ]

/-- The value stored under a key. -/
def get? (t : Table κ α) (k : κ) : Option α :=
  (t.entries.find? fun e => e.1 = k).map Prod.snd

def contains (t : Table κ α) (k : κ) : Bool := (t.get? k).isSome

/-- The table without the entry of a key. -/
def erase (t : Table κ α) (k : κ) : Table κ α := t.filter fun k' _ => k' ≠ k

/-- The table with the value of a key changed in place. -/
def modify (t : Table κ α) (k : κ) (f : α → α) : Table κ α where
  entries := t.entries.map fun e => if e.1 = k then (e.1, f e.2) else e
  distinct := by
    have h : (fun e : κ × α => (if e.1 = k then (e.1, f e.2) else e).1) = Prod.fst := by
      funext e
      split <;> rfl
    simpa only [List.map_map, Function.comp_def, h] using t.distinct

theorem get?_eq_none_iff (t : Table κ α) (k : κ) : t.get? k = none ↔ k ∉ t.keys := by
  simp only [get?, keys, Option.map_eq_none_iff, List.find?_eq_none, List.mem_map,
    decide_eq_true_eq, not_exists, not_and]

/-- The table with a value stored under a key: in place of the old one, or at the end. -/
def insert (t : Table κ α) (k : κ) (a : α) : Table κ α :=
  if h : k ∈ t.keys then t.modify k fun _ => a
  else
    { entries := t.entries ++ [(k, a)]
      distinct := by
        rw [List.map_append, List.nodup_append]
        refine ⟨t.distinct, by simp, ?_⟩
        intro x hx y hy
        simp only [List.map_cons, List.map_nil, List.mem_singleton] at hy
        rintro rfl
        exact h (hy ▸ hx) }

theorem get?_modify (t : Table κ α) (k j : κ) (f : α → α) :
    (t.modify k f).get? j = if j = k then (t.get? j).map f else t.get? j := by
  have h : ((fun e : κ × α => decide (e.1 = j)) ∘
      fun e : κ × α => if e.1 = k then (e.1, f e.2) else e) = fun e => decide (e.1 = j) := by
    funext e
    simp only [Function.comp_def]
    split <;> rfl
  simp only [get?, modify, List.find?_map, h, Option.map_map]
  cases hf : t.entries.find? (fun e => decide (e.1 = j)) with
  | none => simp
  | some e =>
    have he : e.1 = j := by simpa using List.find?_some hf
    by_cases hjk : j = k
    · simp [hjk, he]
    · simp [hjk, he]

theorem get?_insert (t : Table κ α) (k j : κ) (a : α) :
    (t.insert k a).get? j = if j = k then some a else t.get? j := by
  unfold insert
  split
  · rename_i h
    rw [get?_modify]
    by_cases hjk : j = k
    · subst hjk
      cases hg : t.get? j with
      | none => exact absurd h ((t.get?_eq_none_iff j).mp hg)
      | some b => simp
    · simp [hjk]
  · rename_i h
    by_cases hjk : j = k
    · subst hjk
      have hn := (t.get?_eq_none_iff j).mpr h
      simp only [get?, Option.map_eq_none_iff] at hn
      simp [get?, List.find?_append, hn]
    · simp [get?, List.find?_append, Ne.symm hjk, hjk]

theorem get?_filter (t : Table κ α) (keep : κ → α → Bool) (k : κ) :
    (t.filter keep).get? k = (t.get? k).filter (keep k) := by
  obtain ⟨es, hd⟩ := t
  simp only [get?, filter]
  induction es with
  | nil => rfl
  | cons e rest ih =>
    have hr := (List.nodup_cons.mp (by simpa only [List.map_cons] using hd))
    by_cases he : e.1 = k
    · by_cases hk : keep e.1 e.2
      · subst he
        simp [hk, Option.filter_some]
      · have hnone : (rest.filter fun e => keep e.1 e.2).find? (fun e => decide (e.1 = k)) =
            none := by
          rw [List.find?_eq_none]
          intro x hx hxk
          apply hr.1
          rw [he, ← of_decide_eq_true hxk]
          exact List.mem_map_of_mem (List.mem_filter.mp hx).1
        subst he
        simp [hk, hnone, Option.filter_some]
    · by_cases hk : keep e.1 e.2
      · simpa [hk, he] using ih hr.2
      · simpa [hk, he] using ih hr.2

theorem get?_erase (t : Table κ α) (k j : κ) :
    (t.erase k).get? j = if j = k then none else t.get? j := by
  rw [erase, get?_filter]
  by_cases hjk : j = k
  · cases t.get? j <;> simp [hjk]
  · cases t.get? j <;> simp [hjk]

theorem mem_of_get? {t : Table κ α} {k : κ} {a : α} (h : t.get? k = some a) :
    (k, a) ∈ t.entries := by
  obtain ⟨e, he, rfl⟩ := Option.map_eq_some_iff.mp h
  have hk : e.1 = k := by simpa using List.find?_some he
  subst hk
  exact List.mem_of_find?_eq_some he

theorem get?_of_mem {t : Table κ α} {k : κ} {a : α} (h : (k, a) ∈ t.entries) :
    t.get? k = some a := by
  obtain ⟨es, hd⟩ := t
  simp only [get?] at h ⊢
  induction es with
  | nil => cases h
  | cons e rest ih =>
    have hr := List.nodup_cons.mp (by simpa only [List.map_cons] using hd)
    rcases List.mem_cons.mp h with rfl | hrest
    · simp
    · have hne : e.1 ≠ k := by
        rintro rfl
        exact hr.1 (List.mem_map.mpr ⟨_, hrest, rfl⟩)
      simpa [hne] using ih hr.2 hrest

theorem mem_values_iff {t : Table κ α} {a : α} : a ∈ t.values ↔ ∃ k, t.get? k = some a := by
  constructor
  · intro h
    obtain ⟨⟨k, b⟩, he, rfl⟩ := List.mem_map.mp h
    exact ⟨k, get?_of_mem he⟩
  · rintro ⟨k, h⟩
    exact List.mem_map_of_mem (mem_of_get? h)

/-- The values are what is found under a key, and the values of the other keys. -/
theorem values_perm {t : Table κ α} {k : κ} {a : α} (h : t.get? k = some a) :
    t.values.Perm (a :: (t.erase k).values) := by
  obtain ⟨es, hd⟩ := t
  obtain ⟨⟨k', b⟩, he, rfl⟩ := Option.map_eq_some_iff.mp h
  obtain ⟨hk, before, behind, rfl, hbefore⟩ := List.find?_eq_some_iff_append.mp he
  obtain rfl : k' = k := by simpa using hk
  rw [List.map_append, List.map_cons, List.nodup_append, List.nodup_cons] at hd
  have hbehind : ∀ x ∈ behind, x.1 ≠ k' := by
    rintro x hx rfl
    exact hd.2.1.1 (List.mem_map.mpr ⟨x, hx, rfl⟩)
  have herase : (before ++ (k', b) :: behind).filter (fun x => decide (x.1 ≠ k')) =
      before ++ behind := by
    rw [List.filter_append, List.filter_cons_of_neg (by simp),
      List.filter_eq_self.mpr (by simpa using hbefore),
      List.filter_eq_self.mpr (by simpa using hbehind)]
  simp only [values, erase, filter, herase, List.map_append, List.map_cons]
  exact List.perm_middle

/-- A change of the value of a key concerns no other key. -/
theorem erase_modify (t : Table κ α) (k : κ) (f : α → α) :
    (t.modify k f).erase k = t.erase k := by
  simp only [erase, filter, modify, mk.injEq]
  induction t.entries with
  | nil => rfl
  | cons x rest ih =>
    simp only [decide_not, List.map_cons, List.filter_cons] at ih ⊢
    by_cases hx : x.1 = k <;> simp [hx, ih]

theorem erase_erase (t : Table κ α) (k : κ) : (t.erase k).erase k = t.erase k := by
  simp only [erase, filter, List.filter_filter, Bool.and_self]

/-- There is nothing to remove where there is no entry. -/
theorem erase_eq_self {t : Table κ α} {k : κ} (h : t.get? k = none) : t.erase k = t := by
  rw [get?_eq_none_iff] at h
  have hall : ∀ x ∈ t.entries, x.1 ≠ k := by
    rintro x hx rfl
    exact h (List.mem_map_of_mem hx)
  have hsame : t.entries.filter (fun x => decide (x.1 ≠ k)) = t.entries :=
    List.filter_eq_self.mpr fun x hx => decide_eq_true (hall x hx)
  simp only [erase, filter, hsame]

theorem erase_insert (t : Table κ α) (k : κ) (a : α) : (t.insert k a).erase k = t.erase k := by
  unfold insert
  split
  · exact t.erase_modify k _
  · simp [erase, filter, List.filter_append]

theorem values_insert (t : Table κ α) {k : κ} (h : t.get? k = none) (a : α) :
    (t.insert k a).values = t.values ++ [a] := by
  rw [insert, dif_neg ((t.get?_eq_none_iff k).mp h)]
  simp only [values, List.map_append, List.map_cons, List.map_nil]

/-- Only what is found under a key matters for changing its value. -/
theorem modify_congr {t : Table κ α} {k : κ} {f g : α → α}
    (h : ∀ a, t.get? k = some a → f a = g a) : t.modify k f = t.modify k g := by
  simp only [modify, mk.injEq]
  apply List.map_congr_left
  intro e he
  split
  · rename_i hk
    subst hk
    rw [h e.2 (get?_of_mem he)]
  · rfl

/-- A value that is changed twice changes once. -/
theorem modify_modify (t : Table κ α) (k : κ) (f g : α → α) :
    (t.modify k f).modify k g = t.modify k fun a => g (f a) := by
  simp only [modify, mk.injEq, List.map_map]
  apply List.map_congr_left
  intro e _
  by_cases hk : e.1 = k <;> simp [hk]

/-- The values of two keys may be changed in either order. -/
theorem modify_comm (t : Table κ α) {j k : κ} (h : j ≠ k) (f g : α → α) :
    (t.modify j f).modify k g = (t.modify k g).modify j f := by
  simp only [modify, mk.injEq, List.map_map]
  apply List.map_congr_left
  intro e _
  by_cases hj : e.1 = j
  · simp [hj, h]
  · by_cases hk : e.1 = k <;> simp [hj, hk, h.symm]

theorem erase_comm (t : Table κ α) (j k : κ) : (t.erase j).erase k = (t.erase k).erase j := by
  simp only [erase, filter, List.filter_filter, Bool.and_comm]

/-- Removing keys empties their places and no others. -/
theorem get?_foldl_erase (t : Table κ α) (ks : List κ) (j : κ) :
    (ks.foldl erase t).get? j = if j ∈ ks then none else t.get? j := by
  induction ks generalizing t with
  | nil => simp
  | cons k rest ih =>
    rw [List.foldl_cons, ih, get?_erase]
    by_cases hjk : j = k <;> simp [hjk]

end Lookup

@[simp] theorem size_modify [DecidableEq κ] (t : Table κ α) (k : κ) (f : α → α) :
    (t.modify k f).size = t.size := by simp [size, modify]

theorem size_insert [DecidableEq κ] (t : Table κ α) (k : κ) (a : α) :
    (t.insert k a).size = if k ∈ t.keys then t.size else t.size + 1 := by
  unfold insert
  split <;> simp [size, modify]

@[simp] theorem length_values (t : Table κ α) : t.values.length = t.size := by
  simp [values, size]

theorem size_erase [DecidableEq κ] {t : Table κ α} {k : κ} {a : α} (h : t.get? k = some a) :
    (t.erase k).size + 1 = t.size := by
  simpa using (values_perm h).length_eq.symm

/-- Removing distinct keys that have entries removes as many entries. -/
theorem size_foldl_erase [DecidableEq κ] {t : Table κ α} {ks : List κ} (hks : ks.Nodup)
    (h : ∀ k ∈ ks, (t.get? k).isSome) : (ks.foldl erase t).size + ks.length = t.size := by
  induction ks generalizing t with
  | nil => rfl
  | cons k rest ih =>
    obtain ⟨hk, hrest⟩ := List.nodup_cons.mp hks
    obtain ⟨a, ha⟩ := Option.isSome_iff_exists.mp (h k List.mem_cons_self)
    have hothers : ∀ j ∈ rest, ((t.erase k).get? j).isSome := by
      intro j hj
      have hne : j ≠ k := fun he => hk (he ▸ hj)
      rw [get?_erase, if_neg hne]
      exact h j (List.mem_cons_of_mem k hj)
    rw [List.foldl_cons, List.length_cons, ← Nat.add_assoc, ih hrest hothers, size_erase ha]

end Table

end GuestNat
