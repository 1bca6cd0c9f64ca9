import GuestNat.Proofs.Flow.History

/-!
# Eviction of flows

An eviction takes the flows out of the table that have been idle for longer than a time, and no
others (`find?_evict`), and tells how many there were (`size_evict`). To clear the table closes
every flow that is live (`flow?_clear`), and its socket (`hungUp_mem_clear`).
-/
namespace GuestNat.FlowTable

/-- Whether a flow has been idle for longer than a time. -/
def idles (t : FlowTable) (now timeout : Nat) (id : FlowId) : Bool :=
  (t.flow? id).any fun f => timeout < f.idle now

def idle (t : FlowTable) (now timeout : Nat) : List Flow :=
  (t.bySource.values.filter (t.idles now timeout)).filterMap t.flow?

section

variable {t : FlowTable} {now timeout : Nat}

lemma evict_eq (t : FlowTable) (now timeout : Nat) :
    t.evict now timeout =
      (({ t with bySource := t.bySource.filter fun _ id => !t.idles now timeout id }.closeAll
          (t.idle now timeout)).1, (t.idle now timeout).length,
        (t.idle now timeout).flatMap Flow.closeEffects) := rfl

lemma idles_of_mem (h : t.Sound) {f : Flow} (hf : f ∈ t.idle now timeout) :
    t.idles now timeout f.id = true := by
  obtain ⟨id, hid, hflow⟩ := List.mem_filterMap.mp hf
  obtain rfl := h.labelled id f hflow
  exact (List.mem_filter.mp hid).2

theorem find?_evict (h : t.Sound) (source : Endpoint) :
    (t.evict now timeout).1.find? source =
      (t.find? source).filter fun f => f.idle now ≤ timeout := by
  rw [evict_eq, find?, find?, (index_closeAll _ _).1, Table.get?_filter]
  cases hid : t.bySource.get? source with
  | none => rfl
  | some id =>
    obtain ⟨f, hf, -⟩ := h.indexed source id hid
    have hidles : t.idles now timeout id = decide (timeout < f.idle now) := by
      rw [idles, hf, Option.any_some]
    rw [Option.filter_some, hidles, Option.bind_eq_bind, Option.bind_some, hf, Option.filter_some]
    by_cases hidle : timeout < f.idle now
    · rw [decide_eq_true hidle, decide_eq_false (Nat.not_le.mpr hidle)]
      rfl
    · -- Only flows that idle are closed, and this one does not.
      have hspared : ¬∃ g ∈ t.idle now timeout, g.id = id := by
        rintro ⟨g, hg, rfl⟩
        rw [idles_of_mem h hg] at hidles
        exact hidle (of_decide_eq_true hidles.symm)
      have hknown : ∀ g ∈ t.idle now timeout, t.flow? g.id = some g := flow?_of_mem_filterMap h
      rw [decide_eq_false hidle, decide_eq_true (Nat.not_lt.mp hidle)]
      exact (flow?_closeAll hknown _ id).trans ((if_neg hspared).trans hf)

/-- An eviction tells by how many flows the table has become smaller. -/
theorem size_evict (t : FlowTable) (now timeout : Nat) :
    (t.evict now timeout).2.1 + (t.evict now timeout).1.size = t.size := by
  have hknown : (t.idle now timeout).length =
      (t.bySource.values.filter (t.idles now timeout)).length := by
    rw [idle, List.filterMap_length_eq_length]
    intro id hid
    have hidles := (List.mem_filter.mp hid).2
    cases hf : t.flow? id with
    | none => simp [idles, hf] at hidles
    | some f => rfl
  have hkept : (t.bySource.filter fun _ id => !t.idles now timeout id).size =
      (t.bySource.values.filter fun id => !t.idles now timeout id).length := by
    rw [Table.values, List.filter_map, List.length_map]
    rfl
  rw [evict_eq, size, size, (index_closeAll _ _).1, hknown, hkept, ← Table.length_values]
  exact (List.length_eq_length_filter_add _).symm

lemma mem_filterMap_of_find? {source : Endpoint} {f : Flow} (hf : t.find? source = some f) :
    f ∈ t.bySource.values.filterMap t.flow? := by
  obtain ⟨id, hid, hflow⟩ := Option.bind_eq_some_iff.mp hf
  exact List.mem_filterMap.mpr ⟨id, Table.mem_values_iff.mpr ⟨source, hid⟩, hflow⟩

theorem flow?_clear (h : t.Sound) {source : Endpoint} {f : Flow} (hf : t.find? source = some f) :
    t.clear.1.flow? f.id = some f.close := by
  have hknown : ∀ g ∈ t.bySource.values.filterMap t.flow?, t.flow? g.id = some g :=
    flow?_of_mem_filterMap h
  have hmem := mem_filterMap_of_find? hf
  have hclosed := flow?_closeAll hknown .empty f.id
  rw [if_pos ⟨f, hmem, rfl⟩] at hclosed
  exact hclosed.trans (congrArg (Option.map Flow.close) (hknown f hmem))

theorem hungUp_mem_clear {source : Endpoint} {f : Flow} (hf : t.find? source = some f)
    {socket : SocketId} (hsocket : f.socket = some socket) :
    .hungUp socket ∈ t.clear.2.2 := by
  refine List.mem_flatMap.mpr ⟨f, mem_filterMap_of_find? hf, List.mem_append_right _ ?_⟩
  rw [hsocket]
  exact List.mem_singleton_self _

end

end GuestNat.FlowTable
