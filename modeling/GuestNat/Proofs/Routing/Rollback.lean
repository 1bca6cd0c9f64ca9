import Mathlib.Data.List.Count
import GuestNat.Routing

/-!
# All routes or none

To apply routes and name servers is to make every call of their `installation`, or to make them up
to the first that is refused and to delete again what was added (`outcome_apply`). So it succeeds
exactly if the service accepts every call, and every route that was added, and was not to stay, is
deleted once for each time it was added (`additions_apply`).
-/
namespace GuestNat.Routing

def accepted (call : RoutingCall) : RoutingAnswer := ⟨call, none⟩

/-- The calls that install routes and name servers. -/
def installation (routes : List Route) (dns : List Address) : List RoutingCall :=
  routes.map .add ++ [.setDns dns]

/-- A service refuses none of the calls, made one after another. -/
def Accepts (service : RoutingService) (calls : List RoutingCall) : Prop :=
  ∀ before call, before ++ [call] <+: calls → service before call = none

/-- How often a route was added. -/
def additions (route : Route) (answers : List RoutingAnswer) : Nat :=
  answers.count (accepted (.add route))

/-- How often the deletion of a route was asked for. -/
def deletions (route : Route) (answers : List RoutingAnswer) : Nat :=
  (callsOf answers).count (.delete route)

/-- What comes of applying routes and name servers. -/
inductive Outcome (service : RoutingService) (routes : List Route) (dns : List Address) :
    List RoutingAnswer × Except Fault Unit → Prop
  | installed (haccepts : Accepts service (installation routes dns)) :
      Outcome service routes dns ((installation routes dns).map accepted, .ok ())
  | refused {added : List Route} {call : RoutingCall} {behind : List RoutingCall} {fault : Fault}
      (hcalls : installation routes dns = added.map .add ++ call :: behind)
      (haccepts : Accepts service (added.map .add))
      (hrefuses : service (added.map .add) call = some fault) :
      Outcome service routes dns
        (withdraw service ((added.map .add).map accepted ++ [⟨call, some fault⟩]) added,
          .error fault)

section

variable {service : RoutingService} {calls : List RoutingCall} {call : RoutingCall}
  {routes : List Route} {dns : List Address}

@[simp] theorem callsOf_accepted (calls : List RoutingCall) :
    callsOf (calls.map accepted) = calls := by
  simp [callsOf, accepted, Function.comp_def]

@[simp] theorem callsOf_append (log answers : List RoutingAnswer) :
    callsOf (log ++ answers) = callsOf log ++ callsOf answers := List.map_append

@[simp] theorem accepts_nil : Accepts service [] := by simp [Accepts]

/-- What holds of each element and those before it, told with one more element. -/
lemma forall_prefix_concat {α : Type} {P : List α → α → Prop} {xs : List α} {x : α} :
    (∀ before y, before ++ [y] <+: xs ++ [x] → P before y) ↔
      (∀ before y, before ++ [y] <+: xs → P before y) ∧ P xs x := by
  simp only [List.prefix_concat_iff, or_imp, forall_and]
  constructor
  · rintro ⟨hlast, hbefore⟩
    exact ⟨hbefore, hlast xs x rfl⟩
  · rintro ⟨hbefore, hlast⟩
    refine ⟨fun before y he => ?_, hbefore⟩
    obtain ⟨rfl, hy⟩ := List.append_inj' he rfl
    obtain rfl := List.singleton_inj.mp hy
    exact hlast

theorem accepts_concat :
    Accepts service (calls ++ [call]) ↔ Accepts service calls ∧ service calls call = none :=
  forall_prefix_concat

lemma Accepts.of_append {behind : List RoutingCall}
    (h : Accepts service (calls ++ call :: behind)) : service calls call = none :=
  h calls call ⟨behind, by simp⟩

/-- The routes that are yet to be added follow those that were. -/
lemma outcome_applyFrom {added rest : List Route} (haccepts : Accepts service (added.map .add)) :
    Outcome service (added ++ rest) dns
      (applyFrom service dns ((added.map .add).map accepted) added rest) := by
  induction rest generalizing added with
  | nil =>
    simp only [applyFrom, ask, callsOf_accepted, List.append_nil]
    cases hservice : service (added.map .add) (.setDns dns) with
    | none =>
      have hall : Accepts service (installation added dns) :=
        accepts_concat.mpr ⟨haccepts, hservice⟩
      simpa [installation, accepted] using Outcome.installed hall
    | some fault => exact .refused rfl haccepts hservice
  | cons route rest ih =>
    simp only [applyFrom, ask, callsOf_accepted]
    cases hservice : service (added.map .add) (.add route) with
    | none =>
      have hadded : Accepts service ((added ++ [route]).map .add) := by
        rw [List.map_append]
        exact accepts_concat.mpr ⟨haccepts, hservice⟩
      simpa [accepted] using ih hadded
    | some fault =>
      have hcalls : installation (added ++ route :: rest) dns =
          added.map .add ++ .add route :: installation rest dns := by simp [installation]
      exact .refused hcalls haccepts hservice

/-- Either everything is installed, or what was added is deleted again. -/
theorem outcome_apply (service : RoutingService) (routes : List Route) (dns : List Address) :
    Outcome service routes dns (apply service routes dns) := by
  have hnone : Accepts service (([] : List Route).map .add) := accepts_nil
  exact outcome_applyFrom hnone

/-- Applying succeeds exactly if the service accepts every call. -/
theorem apply_eq_ok_iff :
    (apply service routes dns).2 = .ok () ↔ Accepts service (installation routes dns) := by
  have h := outcome_apply service routes dns
  generalize apply service routes dns = result at h ⊢
  cases h with
  | installed haccepts => exact iff_of_true rfl haccepts
  | refused hcalls _ hrefuses =>
    refine iff_of_false nofun fun hall => ?_
    rw [hcalls] at hall
    rw [hall.of_append] at hrefuses
    cases hrefuses

lemma withdraw_eq (service : RoutingService) (log : List RoutingAnswer) (routes : List Route) :
    ∃ answers, withdraw service log routes = log ++ answers ∧
      callsOf answers = routes.reverse.map .delete := by
  unfold withdraw
  induction routes.reverse generalizing log with
  | nil => exact ⟨[], (List.append_nil log).symm, rfl⟩
  | cons route rest ih =>
    obtain ⟨answers, hfold, hcalls⟩ := ih (log ++ [ask service log (.delete route)])
    refine ⟨ask service log (.delete route) :: answers, ?_, ?_⟩
    · rw [List.foldl_cons, hfold, List.append_assoc, List.singleton_append]
    · rw [List.map_cons, ← hcalls]
      rfl

section Counts

variable {route : Route}

@[simp] theorem additions_nil : additions route [] = 0 := rfl

@[simp] theorem deletions_nil : deletions route [] = 0 := rfl

@[simp] theorem additions_append (log answers : List RoutingAnswer) :
    additions route (log ++ answers) = additions route log + additions route answers :=
  List.count_append

@[simp] theorem deletions_append (log answers : List RoutingAnswer) :
    deletions route (log ++ answers) = deletions route log + deletions route answers := by
  rw [deletions, callsOf_append, List.count_append]
  rfl

lemma additions_accepted (calls : List RoutingCall) :
    additions route (calls.map accepted) = calls.count (.add route) :=
  List.count_map_of_injective calls accepted (fun _ _ h => (RoutingAnswer.mk.inj h).1) _

lemma count_add (routes : List Route) :
    (routes.map RoutingCall.add).count (.add route) = routes.count route :=
  List.count_map_of_injective routes _ (fun _ _ h => RoutingCall.add.inj h) _

lemma count_delete (routes : List Route) :
    (routes.map RoutingCall.delete).count (.delete route) = routes.count route :=
  List.count_map_of_injective routes _ (fun _ _ h => RoutingCall.delete.inj h) _

lemma additions_eq_zero {answers : List RoutingAnswer} (h : .add route ∉ callsOf answers) :
    additions route answers = 0 :=
  List.count_eq_zero.mpr fun hmem => h (List.mem_map_of_mem (f := RoutingAnswer.call) hmem)

@[simp] theorem additions_withdraw (log : List RoutingAnswer) :
    additions route (withdraw service log routes) = additions route log := by
  obtain ⟨answers, hwithdraw, hcalls⟩ := withdraw_eq service log routes
  have hnone : additions route answers = 0 := additions_eq_zero (by simp [hcalls])
  rw [hwithdraw, additions_append, hnone, Nat.add_zero]

@[simp] theorem deletions_withdraw (log : List RoutingAnswer) :
    deletions route (withdraw service log routes) = deletions route log + routes.count route := by
  obtain ⟨answers, hwithdraw, hcalls⟩ := withdraw_eq service log routes
  rw [hwithdraw, deletions_append, deletions, deletions, hcalls, count_delete, List.count_reverse]

/-- What was added stays as often as it is listed if everything is installed, and otherwise was
deleted as often as it was added. -/
theorem additions_apply (service : RoutingService) (routes : List Route) (dns : List Address)
    (route : Route) :
    additions route (apply service routes dns).1 = deletions route (apply service routes dns).1 +
      if (apply service routes dns).2 = .ok () then routes.count route else 0 := by
  have h := outcome_apply service routes dns
  generalize apply service routes dns = result at h ⊢
  cases h with
  | installed =>
    have hdeletions : deletions route ((installation routes dns).map accepted) = 0 := by
      rw [deletions, callsOf_accepted]
      simp [installation, List.count_eq_zero]
    rw [hdeletions, additions_accepted, installation, List.count_append, count_add, if_pos rfl]
    simp
  | @refused added call behind fault hcalls =>
    have hdelete : call ≠ .delete route := by
      have hcall : call ∈ installation routes dns := by simp [hcalls]
      rintro rfl
      simp [installation] at hcall
    have hadditions : additions route [⟨call, some fault⟩] = 0 := by
      simp [additions, accepted]
    have hdeletions : deletions route ((added.map .add).map accepted ++ [⟨call, some fault⟩]) = 0 := by
      rw [deletions, callsOf_append, callsOf_accepted]
      simp [callsOf, List.count_eq_zero, hdelete.symm]
    rw [additions_withdraw, additions_append, additions_accepted, count_add, hadditions,
      deletions_withdraw, hdeletions, if_neg nofun]
    omega

end Counts

end

end GuestNat.Routing
