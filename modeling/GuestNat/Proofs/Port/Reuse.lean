import Mathlib.Data.Nat.ModEq
import GuestNat.Proofs.Port.Pool

/-!
# A port is reused as late as possible

Each request for a free port examines the ports from the cursor on, up to the one that it finds,
and the cursor goes on from there, whatever was taken and whether or not one was found. So between
two requests that find the same port the cursor has gone round the whole range: every other port
was found by a request in between, or was taken when it was examined
(`reused_after_whole_range`).
-/
namespace GuestNat

/-- A request for a free port: what is taken at that time, the ports that are examined, and the one
that is found. -/
structure PortRequest where
  taken : UInt16 → Bool
  examined : List UInt16
  found : Option UInt16

namespace PortPool

/-- The ports that a search examines, in order. -/
def examined (p : PortPool) (taken : UInt16 → Bool) : Nat → List UInt16
  | 0 => []
  | n + 1 => p.cursor :: if taken p.cursor then p.advance.examined taken n else []

def requests (p : PortPool) : List (UInt16 → Bool) → List PortRequest
  | [] => []
  | taken :: rest =>
    ⟨taken, p.examined taken p.capacity, (p.nextFree taken).1⟩ :: (p.nextFree taken).2.requests rest

/-- From one pool to another the cursor goes over ports, one after another. -/
inductive Walks : PortPool → List UInt16 → PortPool → Prop
  | stay (p : PortPool) : Walks p [] p
  | on {p q : PortPool} {ports : List UInt16} (h : Walks p.advance ports q) :
      Walks p (p.cursor :: ports) q

section Search

variable {p q r : PortPool} {taken : UInt16 → Bool} {n : Nat}

lemma walks_search (p : PortPool) (taken : UInt16 → Bool) (n : Nat) :
    Walks p (p.examined taken n) (p.search taken n).2 := by
  induction n generalizing p with
  | zero => exact .stay p
  | succ n ih =>
    simp only [examined, search]
    split
    · exact .on (ih p.advance)
    · exact .on (.stay p.advance)

/-- A search examines ports that are taken up to the one that it finds, or up to the last that it
may try. -/
lemma examined_cases (p : PortPool) (taken : UInt16 → Bool) (n : Nat) :
    (∃ skipped port, p.examined taken n = skipped ++ [port] ∧ (∀ x ∈ skipped, taken x = true) ∧
      (p.search taken n).1 = some port) ∨
    ((∀ x ∈ p.examined taken n, taken x = true) ∧ (p.search taken n).1 = none) := by
  induction n generalizing p with
  | zero => exact .inr ⟨List.forall_mem_nil _, rfl⟩
  | succ n ih =>
    simp only [examined, search]
    cases ht : taken p.cursor with
    | true =>
      rw [if_pos rfl, if_pos rfl]
      rcases ih p.advance with ⟨skipped, port, hexamined, hskipped, hfound⟩ | ⟨hall, hnone⟩
      · refine .inl ⟨p.cursor :: skipped, port, ?_, List.forall_mem_cons.mpr ⟨ht, hskipped⟩, hfound⟩
        rw [hexamined, List.cons_append]
      · exact .inr ⟨List.forall_mem_cons.mpr ⟨ht, hall⟩, hnone⟩
    | false => exact .inl ⟨[], p.cursor, rfl, List.forall_mem_nil _, rfl⟩

namespace Walks

variable {xs ys ports : List UInt16}

lemma append (h : Walks p xs q) (h' : Walks q ys r) : Walks p (xs ++ ys) r := by
  induction h with
  | stay => exact h'
  | on _ ih => exact .on (ih h')

lemma eq_ahead (hp : p.Valid) (h : Walks p ports q) :
    ports = (List.range ports.length).map p.ahead := by
  induction h with
  | stay => rfl
  | @on p q ports h ih =>
    have hlater : p.advance.ahead = fun k => p.ahead (k + 1) := funext (ahead_advance hp)
    rw [List.length_cons, List.range_succ_eq_map, List.map_cons, List.map_map, ahead_zero hp]
    rw [hlater] at ih
    exact congrArg _ (ih hp.advance)

end Walks

/-- The same port comes again only after whole turns. -/
lemma modEq_of_ahead_eq (hp : p.Valid) {j k : Nat} (h : p.ahead j = p.ahead k) :
    j ≡ k [MOD p.capacity] := by
  have hnat := congrArg UInt16.toNat h
  rw [toNat_ahead hp, toNat_ahead hp] at hnat
  exact Nat.ModEq.add_left_cancel' _ (Nat.add_left_cancel hnat)

end Search

section Requests

variable {p : PortPool} {takens : List (UInt16 → Bool)}

/-- Later requests are requests of the pool at that time, which has the same range. -/
lemma requests_eq_append {before behind : List PortRequest}
    (h : p.requests takens = before ++ behind) :
    ∃ q later, behind = q.requests later ∧ q.first = p.first ∧ q.last = p.last ∧
      (p.Valid → q.Valid) ∧ Walks p (before.flatMap (·.examined)) q := by
  induction before generalizing p takens with
  | nil => exact ⟨p, takens, h.symm, rfl, rfl, id, .stay p⟩
  | cons x before ih =>
    cases takens with
    | nil => cases h
    | cons taken rest =>
      obtain ⟨rfl, hrest⟩ := List.cons.inj h
      obtain ⟨q, later, hbehind, hfirst, hlast, hvalid, hwalks⟩ := ih hrest
      exact ⟨q, later, hbehind, hfirst.trans (first_search ..), hlast.trans (last_search ..),
        fun hp => hvalid (hp.search taken _), (p.walks_search taken _).append hwalks⟩

lemma examined_of_mem {z : PortRequest} (hz : z ∈ p.requests takens) :
    (∃ skipped port, z.examined = skipped ++ [port] ∧ (∀ x ∈ skipped, z.taken x = true) ∧
      z.found = some port) ∨
    ((∀ x ∈ z.examined, z.taken x = true) ∧ z.found = none) := by
  induction takens generalizing p with
  | nil => cases hz
  | cons taken rest ih =>
    rcases List.mem_cons.mp hz with rfl | hz
    · exact p.examined_cases taken p.capacity
    · exact ih hz

lemma taken_or_found {z : PortRequest} (hz : z ∈ p.requests takens) {port : UInt16}
    (hport : port ∈ z.examined) : z.taken port = true ∨ z.found = some port := by
  rcases examined_of_mem hz with ⟨skipped, found, hexamined, hskipped, hfound⟩ | ⟨hall, -⟩
  · rw [hexamined] at hport
    rcases List.mem_append.mp hport with hmem | hmem
    · exact .inl (hskipped port hmem)
    · rw [List.mem_singleton.mp hmem]
      exact .inr hfound
  · exact .inl (hall port hport)

lemma advance_of_found (hp : p.Valid) {taken : UInt16 → Bool} {port : UInt16}
    (h : (p.nextFree taken).1 = some port) :
    ∃ q : PortPool, q.Valid ∧ q.cursor = port ∧ q.first = p.first ∧ q.last = p.last ∧
      (p.nextFree taken).2 = q.advance := by
  rcases search_cases hp taken p.capacity with ⟨k, -, -, -, heq⟩ | ⟨-, heq⟩
  · have hport : p.ahead k = port := by
      rw [nextFree, heq] at h
      exact Option.some.inj h
    refine ⟨{ p with cursor := port }, ?_, rfl, rfl, rfl, ?_⟩
    · rw [← hport]
      exact ⟨(ahead_mem hp k).1, (ahead_mem hp k).2⟩
    · rw [nextFree, heq, ← hport, ← cursor_advance_ahead hp]
      rfl
  · rw [nextFree, heq] at h
    cases h

/-- If the cursor goes on from a port until it is behind the same port, it goes over the whole
range. -/
lemma Walks.whole {q r : PortPool} {ports skipped : List UInt16} (hq : q.Valid)
    (h : Walks q.advance ports r) (hends : ports = skipped ++ [q.cursor]) {other : UInt16}
    (hfirst : q.first ≤ other) (hlast : other ≤ q.last) : other ∈ ports := by
  have hahead := h.eq_ahead hq.advance
  have hlength : ports.length = skipped.length + 1 := by simp [hends]
  -- The last port that the cursor goes over is the one that it started from.
  have hback : q.ahead ports.length = q.ahead 0 := by
    have hget := congrArg (·[skipped.length]?) (hends.symm.trans hahead)
    rw [hlength, ← ahead_advance hq, ahead_zero hq]
    simpa [hlength] using hget.symm
  have hturns : q.capacity ∣ ports.length := Nat.modEq_zero_iff_dvd.mp (modEq_of_ahead_eq hq hback)
  have hlong : q.capacity ≤ ports.length := Nat.le_of_dvd (hlength ▸ Nat.succ_pos _) hturns
  obtain ⟨k, hk, rfl⟩ := exists_ahead_eq hq.advance hfirst hlast
  rw [hahead]
  exact List.mem_map_of_mem (List.mem_range.mpr (Nat.lt_of_lt_of_le hk hlong))

/-- From a request that finds a port to another that finds the same, every port of the range is
examined. -/
lemma exists_examined {before between behind : List PortRequest} {x y : PortRequest}
    {port other : UInt16} (hp : p.Valid)
    (hrequests : p.requests takens = before ++ x :: (between ++ y :: behind))
    (hx : x.found = some port) (hy : y.found = some port) (hfirst : p.first ≤ other)
    (hlast : other ≤ p.last) : ∃ z ∈ between ++ [y], other ∈ z.examined := by
  obtain ⟨q, later, hlater, hqfirst, hqlast, hvalid, -⟩ := requests_eq_append hrequests
  cases later with
  | nil => cases hlater
  | cons taken later =>
    obtain ⟨rfl, hbetween⟩ := List.cons.inj hlater
    obtain ⟨c, hc, rfl, hcfirst, hclast, hnext⟩ := advance_of_found (hvalid hp) hx
    rw [hnext, List.append_cons] at hbetween
    obtain ⟨r, -, -, -, -, -, hwalks⟩ := requests_eq_append hbetween.symm
    have hmem : y ∈ c.advance.requests later := by
      rw [← hbetween]
      simp
    rcases examined_of_mem hmem with ⟨skipped, found, hexamined, -, hfound⟩ | ⟨-, hnone⟩
    · obtain rfl := Option.some.inj (hy.symm.trans hfound)
      have hends : (between ++ [y]).flatMap (·.examined) =
          between.flatMap (·.examined) ++ skipped ++ [c.cursor] := by
        rw [List.flatMap_append, List.flatMap_singleton, hexamined, List.append_assoc]
      exact List.mem_flatMap.mp (hwalks.whole hc hends (hcfirst.trans hqfirst ▸ hfirst)
        (hclast.trans hqlast ▸ hlast))
    · rw [hy] at hnone
      cases hnone

end Requests

/-- Whatever is taken at each request, between two requests that find the same port the cursor goes
round the whole range: each port is examined by a request after the first of them and up to the
second. So every other port was found in between, or was taken when it was examined. -/
theorem reused_after_whole_range (first last : UInt16) (takens : List (UInt16 → Bool))
    {before between behind : List PortRequest} {x y : PortRequest} {port : UInt16}
    (hrequests : (ofRange first last).requests takens = before ++ x :: (between ++ y :: behind))
    (hx : x.found = some port) (hy : y.found = some port) :
    ∀ other, first ≤ other → other ≤ last →
      (∃ z ∈ between ++ [y], other ∈ z.examined) ∧
      (other ≠ port → (∃ z ∈ between, z.found = some other) ∨
        ∃ z ∈ between ++ [y], other ∈ z.examined ∧ z.taken other = true) := by
  intro other hfirst hlast
  have hrange : first ≤ last := by
    rw [UInt16.le_iff_toNat_le] at hfirst hlast ⊢
    exact hfirst.trans hlast
  have hexamined := exists_examined (valid_ofRange hrange) hrequests hx hy hfirst hlast
  refine ⟨hexamined, fun hother => ?_⟩
  obtain ⟨z, hz, hmem⟩ := hexamined
  have hrequest : z ∈ (ofRange first last).requests takens := by
    rw [hrequests, List.append_cons between]
    exact List.mem_append_right _ (List.mem_cons_of_mem _ (List.mem_append_left _ hz))
  rcases taken_or_found hrequest hmem with htaken | hfound
  · exact .inr ⟨z, hz, hmem, htaken⟩
  · left
    rcases List.mem_append.mp hz with hz | hz
    · exact ⟨z, hz, hfound⟩
    · rw [List.mem_singleton.mp hz, hy] at hfound
      exact absurd (Option.some.inj hfound).symm hother

/-- One port is skipped, then everything is taken for a whole turn, and then the rest of the range
comes before the first port does again. -/
theorem reused_after_whole_range_full :
    let takens : List (UInt16 → Bool) :=
      [fun _ => false, (· == 50001), fun _ => true, fun _ => false, fun _ => false]
    let run := (ofRange 50000 50003).requests takens
    run.map (·.found) = [some 50000, some 50002, none, some 50003, some 50000] ∧
    run.map (·.examined) =
      [[50000], [50001, 50002], [50003, 50000, 50001, 50002], [50003], [50000]] ∧
    ∀ other : UInt16, 50000 ≤ other → other ≤ 50003 →
      (∃ z ∈ (run.drop 1).take 3 ++ [run[4]], other ∈ z.examined) ∧
      (other ≠ 50000 → (∃ z ∈ (run.drop 1).take 3, z.found = some other) ∨
        ∃ z ∈ (run.drop 1).take 3 ++ [run[4]], other ∈ z.examined ∧ z.taken other = true) := by
  intro takens run
  have hrequests : run = [] ++ run[0] :: ((run.drop 1).take 3 ++ run[4] :: []) := rfl
  exact ⟨by decide, by decide, reused_after_whole_range 50000 50003 takens hrequests rfl rfl⟩

end PortPool

end GuestNat
