import GuestNat.Proofs.Routing.Rollback

/-!
# Applied wholly, or withdrawn

Each call is put to the service behind those before it (`answered_apply`). If one that adds a route
or sets the name servers is refused, no more such calls are made, the routes that were added are
deleted from the last to the first, and the refusal is the result, whatever becomes of the
deletions (`applied_wholly_or_withdrawn`).
-/
namespace GuestNat

/-- The reason for giving up that an answer holds. The refusal of a deletion is none. -/
def RoutingAnswer.refusal? : RoutingAnswer → Option Fault
  | ⟨.delete _, _⟩ => none
  | a => a.fault

namespace Routing

/-- Every call was answered by a service that knew of the calls before. -/
def Answered (service : RoutingService) (answers : List RoutingAnswer) : Prop :=
  ∀ before a, before ++ [a] <+: answers → a.fault = service (callsOf before) a.call

section

variable {service : RoutingService} {routes : List Route} {dns : List Address}

lemma Answered.ask {log : List RoutingAnswer} (h : Answered service log) (call : RoutingCall) :
    Answered service (log ++ [ask service log call]) :=
  forall_prefix_concat.mpr ⟨h, rfl⟩

lemma Answered.withdraw {log : List RoutingAnswer} (h : Answered service log)
    (routes : List Route) : Answered service (withdraw service log routes) := by
  unfold Routing.withdraw
  induction routes.reverse generalizing log with
  | nil => exact h
  | cons route rest ih => exact ih (h.ask (.delete route))

lemma Answered.applyFrom {log : List RoutingAnswer} (h : Answered service log)
    (dns : List Address) (added rest : List Route) :
    Answered service (applyFrom service dns log added rest).1 := by
  induction rest generalizing log added with
  | nil =>
    have hasked := h.ask (.setDns dns)
    simp only [Routing.applyFrom]
    split
    · exact hasked
    · exact hasked.withdraw added
  | cons route rest ih =>
    have hasked := h.ask (.add route)
    simp only [Routing.applyFrom]
    split
    · exact ih hasked (added ++ [route])
    · exact hasked.withdraw added

/-- The answers to what applying asks are those of the service. -/
theorem answered_apply (service : RoutingService) (routes : List Route) (dns : List Address) :
    Answered service (apply service routes dns).1 := by
  have hnone : Answered service [] := by simp [Answered]
  exact hnone.applyFrom dns [] routes

/-- The call behind some of the additions is the next addition, or sets the name servers. -/
lemma installation_eq_append {added : List Route} {call : RoutingCall} {behind : List RoutingCall}
    (h : installation routes dns = added.map .add ++ call :: behind) :
    (∃ route rest, routes = added ++ route :: rest ∧ call = .add route) ∨
      (routes = added ∧ call = .setDns dns) := by
  induction added generalizing routes with
  | nil =>
    cases routes with
    | nil => exact .inr ⟨rfl, (List.cons.inj h).1.symm⟩
    | cons route rest => exact .inl ⟨route, rest, rfl, (List.cons.inj h).1.symm⟩
  | cons first added ih =>
    cases routes with
    | nil => cases (List.cons.inj h).1
    | cons route rest =>
      obtain ⟨hfirst, hrest⟩ := List.cons.inj h
      obtain rfl := RoutingCall.add.inj hfirst
      rcases ih hrest with ⟨next, later, rfl, hcall⟩ | ⟨rfl, hcall⟩
      · exact .inl ⟨next, later, rfl, hcall⟩
      · exact .inr ⟨rfl, hcall⟩

/-- Applying installs everything, or is refused a route or the name servers and then deletes what
it added. -/
theorem apply_cases (service : RoutingService) (routes : List Route) (dns : List Address) :
    apply service routes dns = ((installation routes dns).map accepted, .ok ()) ∨
    (∃ added route rest fault undone, routes = added ++ route :: rest ∧
      callsOf undone = added.reverse.map .delete ∧
      apply service routes dns =
        ((added.map .add).map accepted ++ ⟨.add route, some fault⟩ :: undone, .error fault)) ∨
    ∃ fault undone, callsOf undone = routes.reverse.map .delete ∧
      apply service routes dns =
        ((routes.map .add).map accepted ++ ⟨.setDns dns, some fault⟩ :: undone, .error fault) := by
  have h := outcome_apply service routes dns
  generalize apply service routes dns = result at h ⊢
  cases h with
  | installed => exact .inl rfl
  | @refused added call behind fault hcalls =>
    right
    obtain ⟨undone, hwithdraw, hundone⟩ := withdraw_eq service
      ((added.map .add).map accepted ++ [⟨call, some fault⟩]) added
    rw [hwithdraw, ← List.append_cons]
    rcases installation_eq_append hcalls with ⟨route, rest, rfl, rfl⟩ | ⟨rfl, rfl⟩
    · exact .inl ⟨added, route, rest, fault, undone, rfl, hundone, rfl⟩
    · exact .inr ⟨fault, undone, hundone, rfl⟩

@[simp] theorem refusal?_accepted (call : RoutingCall) : (accepted call).refusal? = none := by
  cases call <;> rfl

section Refused

variable {calls : List RoutingCall} {call other : RoutingCall} {fault fault' : Fault}
  {undone : List RoutingAnswer} {deleted : List Route}

lemma refused_notMem_accepted : ⟨call, some fault⟩ ∉ calls.map accepted := by
  intro hmem
  obtain ⟨_, -, haccepted⟩ := List.mem_map.mp hmem
  cases haccepted

/-- Of the calls that are no deletions, only the one behind those that were accepted is refused. -/
lemma eq_of_refused {i : Nat} (hundone : callsOf undone = deleted.map .delete)
    (h : (calls.map accepted ++ ⟨call, some fault⟩ :: undone)[i]? = some ⟨other, some fault'⟩)
    (hother : ∀ route, other ≠ .delete route) : i = calls.length ∧ other = call := by
  rcases Nat.lt_trichotomy i calls.length with hi | rfl | hi
  · rw [List.getElem?_append_left (by simpa using hi)] at h
    exact absurd (List.mem_of_getElem? h) refused_notMem_accepted
  · rw [List.getElem?_append_right (by simp), List.length_map, Nat.sub_self,
      List.getElem?_cons_zero] at h
    exact ⟨rfl, (RoutingAnswer.mk.inj (Option.some.inj h)).1.symm⟩
  · rw [List.getElem?_append_right (by simpa using Nat.le_of_lt hi), List.length_map,
      List.getElem?_cons, if_neg (Nat.sub_ne_zero_of_lt hi)] at h
    have hcall : other ∈ callsOf undone :=
      List.mem_map_of_mem (f := RoutingAnswer.call) (List.mem_of_getElem? h)
    rw [hundone] at hcall
    obtain ⟨route, -, hroute⟩ := List.mem_map.mp hcall
    exact absurd hroute.symm (hother route)

lemma findSome?_refusal? (hcall : ∀ route, call ≠ .delete route) :
    (calls.map accepted ++ ⟨call, some fault⟩ :: undone).findSome? (·.refusal?) = some fault := by
  have hnone : (calls.map accepted).findSome? (·.refusal?) = none := by
    simp [List.findSome?_eq_none_iff]
  have hrefusal : (⟨call, some fault⟩ : RoutingAnswer).refusal? = some fault := by
    cases call with
    | delete route => exact absurd rfl (hcall route)
    | _ => rfl
  rw [List.findSome?_append, hnone, Option.none_or, List.findSome?_cons, hrefusal]

end Refused

/-- Applying is all or nothing, whatever the service refuses and when. It succeeds exactly if every
call does, and then the calls are the additions in order and the name servers. If the addition of a
route is refused, what follows is only the deletion of the routes before it, from the last to the
first; if the name servers are refused, that of all routes. The fault is that of the first refusal
that is not of a deletion. -/
theorem applied_wholly_or_withdrawn (service : RoutingService) (routes : List Route)
    (dns : List Address) :
    let answers := (apply service routes dns).1
    let result := (apply service routes dns).2
    Answered service answers ∧
    (result = .ok () ↔ ∀ a ∈ answers, a.fault = none) ∧
    (result = .ok () → callsOf answers = routes.map .add ++ [.setDns dns]) ∧
    (∀ (i : Nat) (hi : i < routes.length) (fault : Fault),
      answers[i]? = some ⟨.add routes[i], some fault⟩ →
      callsOf answers = (routes.take (i + 1)).map .add ++ (routes.take i).reverse.map .delete) ∧
    (∀ servers fault, ⟨.setDns servers, some fault⟩ ∈ answers →
      callsOf answers = routes.map .add ++ .setDns dns :: routes.reverse.map .delete) ∧
    result = match answers.findSome? (·.refusal?) with
      | none => .ok ()
      | some fault => .error fault := by
  have hanswered := answered_apply service routes dns
  have hcases := apply_cases service routes dns
  have herror : ∀ fault : Fault, (.error fault : Except Fault Unit) ≠ .ok () := by simp
  generalize apply service routes dns = applied at hanswered hcases ⊢
  refine ⟨hanswered, ?_⟩
  rcases hcases with rfl | ⟨added, route, rest, fault, undone, rfl, hundone, rfl⟩ |
    ⟨fault, undone, hundone, rfl⟩
  · have haccepted : ∀ a ∈ (installation routes dns).map accepted, a.fault = none := by
      simp [accepted]
    have hnone : ((installation routes dns).map accepted).findSome? (·.refusal?) = none := by
      simp [List.findSome?_eq_none_iff]
    refine ⟨iff_of_true rfl haccepted, fun _ => callsOf_accepted _, ?_, ?_, by rw [hnone]⟩
    · exact fun i hi fault hrefused =>
        absurd (List.mem_of_getElem? hrefused) refused_notMem_accepted
    · exact fun servers fault hrefused => absurd hrefused refused_notMem_accepted
  · have hadd : ∀ r, RoutingCall.add route ≠ .delete r := by simp
    refine ⟨iff_of_false (herror fault) fun hall => ?_, fun h => absurd h (herror fault), ?_, ?_,
      by rw [findSome?_refusal? hadd]⟩
    · cases hall ⟨.add route, some fault⟩ (by simp)
    · intro i hi fault' hrefused
      obtain ⟨rfl, -⟩ := eq_of_refused hundone hrefused (by simp)
      have htake : (added ++ route :: rest).take (added.length + 1) = added ++ [route] := by
        rw [List.append_cons]
        exact List.take_left' (by simp)
      rw [List.length_map, htake, List.take_left, List.append_cons, callsOf_append, callsOf_append,
        callsOf_accepted, hundone, List.map_append]
      rfl
    · intro servers fault' hrefused
      obtain ⟨i, hi⟩ := List.getElem?_of_mem hrefused
      cases (eq_of_refused hundone hi (by simp)).2
  · have hset : ∀ r, RoutingCall.setDns dns ≠ .delete r := by simp
    refine ⟨iff_of_false (herror fault) fun hall => ?_, fun h => absurd h (herror fault), ?_, ?_,
      by rw [findSome?_refusal? hset]⟩
    · cases hall ⟨.setDns dns, some fault⟩ (by simp)
    · intro i hi fault' hrefused
      cases (eq_of_refused hundone hrefused (by simp)).2
    · intro servers fault' hrefused
      rw [callsOf_append, callsOf_accepted, ← hundone]
      rfl

/-- A service refuses to add a route again, and to delete the second of two. -/
theorem applied_wholly_or_withdrawn_repeated :
    let low : Route := ⟨⟨0, 0, 0, 0⟩, 1⟩
    let high : Route := ⟨⟨128, 0, 0, 0⟩, 1⟩
    let service : RoutingService := fun before call =>
      if call ∈ before then some (.routing "exists")
      else if call = .delete high then some (.routing "busy")
      else none
    let applied := apply service [low, high, low] []
    applied.1 = [⟨.add low, none⟩, ⟨.add high, none⟩, ⟨.add low, some (.routing "exists")⟩,
      ⟨.delete high, some (.routing "busy")⟩, ⟨.delete low, none⟩] ∧
    callsOf applied.1 = [.add low, .add high, .add low, .delete high, .delete low] ∧
    applied.2 = .error (.routing "exists") := by
  intro low high service applied
  obtain ⟨-, -, -, hadd, -, hresult⟩ := applied_wholly_or_withdrawn service [low, high, low] []
  have hfirst : (apply service [low, high, low] []).1.findSome? (·.refusal?) =
      some (.routing "exists") := by decide
  rw [hfirst] at hresult
  exact ⟨by decide, hadd 2 (by decide) (.routing "exists") (by decide), hresult⟩

end

end Routing

end GuestNat
