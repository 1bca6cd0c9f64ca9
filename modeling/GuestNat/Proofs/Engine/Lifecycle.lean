import GuestNat.Proofs.Engine.Flows
import GuestNat.Proofs.Flow.Eviction
import GuestNat.Proofs.Routing.Rollback

/-!
# Starting and stopping

An engine runs exactly if it was last started (`running_run`), and a route stays added, once for
each time it is configured, exactly while the engine runs (`routesBalance_run`). A start that fails
and a stop leave nothing behind (`lifecycle_balanced`).
-/
namespace GuestNat.Engine

/-- Whether an event is a start or a stop, and succeeds. -/
def succeeds (e : Engine) (w : Surroundings) : Event → Bool
  | .start => (e.start w).2 = .ok ()
  | .stop => (e.stop w).2 = .ok ()
  | _ => false

/-- The starts and stops of a run that succeeded, oldest first. -/
def successes (e : Engine) : List (Surroundings × Event) → List Event
  | [] => []
  | (w, event) :: rest =>
    if e.succeeds w event then event :: (e.step w event).successes rest
    else (e.step w event).successes rest

/-- There is no live link, no flow and no datagram that waits for fragments. -/
structure Vacant (e : Engine) : Prop where
  links : e.links.size = 0 ∧ ∀ key, e.links.findTuple key = none
  ports : ∀ port, e.links.findPort port = none
  flows : e.flows.size = 0 ∧ ∀ source, e.flows.find? source = none
  fragments : e.reassembler.pending = 0

/-- Every link and flow that was live is closed, and its socket as well. -/
structure Releases (e e' : Engine) : Prop where
  links : ∀ key l, e.links.findTuple key = some l → ∃ l', e'.links.link? l.id = some l' ∧
    l'.closed = true ∧ l'.pending = none ∧ l'.socket = none
  flows : ∀ source f, e.flows.find? source = some f → ∃ f', e'.flows.flow? f.id = some f' ∧
    f'.closed = true ∧ f'.accepting = false ∧ f'.socket = none
  sockets : ∃ effects, e'.outbox = e.outbox ++ effects ∧
    (∀ key l socket, e.links.findTuple key = some l → l.socket = some socket →
      .hangUp socket ∈ effects) ∧
    ∀ source f socket, e.flows.find? source = some f → f.socket = some socket →
      .flow (.hungUp socket) ∈ effects

/-- Each route that was added is deleted again, but for one while the engine runs for each time it
is configured. -/
def RoutesBalance (e : Engine) : Prop :=
  ∀ route, Routing.additions route e.routed = Routing.deletions route e.routed +
    if e.running then e.config.routes.count route else 0

section Steps

variable {e : Engine} {w : Surroundings}

lemma filterMap_routed (answers : List RoutingAnswer) :
    (answers.map Effect.routed).filterMap Effect.routed? = answers := by
  rw [List.filterMap_map]
  exact List.filterMap_some

lemma routed_noteRouting (e : Engine) (answers : List RoutingAnswer) :
    (e.noteRouting answers).routed = e.routed ++ answers := by
  rw [routed, noteRouting, List.filterMap_append, filterMap_routed]
  rfl

/-- An engine that does not run starts if the routes and name servers can be applied. -/
lemma start_eq (hrunning : e.running = false) :
    e.start w =
      ({ e.noteRouting (Routing.apply w.routing e.config.routes e.config.dns).1 with
          running := (Routing.apply w.routing e.config.routes e.config.dns).2 = .ok () },
        (Routing.apply w.routing e.config.routes e.config.dns).2) := by
  unfold start
  rw [hrunning, if_neg Bool.false_ne_true]
  obtain ⟨answers, result⟩ := Routing.apply w.routing e.config.routes e.config.dns
  cases result with
  | ok => rfl
  | error fault => rw [decide_eq_false nofun, ← hrunning]; rfl

lemma start_eq_ok_iff :
    (e.start w).2 = .ok () ↔ e.running = false ∧
      Routing.Accepts w.routing (Routing.installation e.config.routes e.config.dns) := by
  cases hrunning : e.running with
  | true => exact iff_of_false (by simp [start, hrunning]) nofun
  | false => rw [start_eq hrunning, Routing.apply_eq_ok_iff, eq_self, true_and]

/-- A start that fails has at most called the routing service. -/
lemma start_of_error (herror : (e.start w).2 ≠ .ok ()) :
    (e.start w).1 = { e with outbox := (e.start w).1.outbox } := by
  cases hrunning : e.running with
  | true => rw [start, if_pos hrunning, ← hrunning]
  | false =>
    rw [start_eq hrunning] at herror ⊢
    rw [decide_eq_false herror, ← hrunning]
    rfl

lemma stop_eq_ok_iff : (e.stop w).2 = .ok () ↔ e.running = true := by
  unfold stop
  cases e.running <;> simp

/-- What a stop makes of a running engine. -/
lemma stop_of_running (hrunning : e.running = true) :
    (e.stop w).1 =
      { e with
        running := false
        links := e.links.clear.1
        flows := e.flows.clear.1
        reassembler := e.reassembler.clear
        counters := e.counters.linksWereClosed e.links.clear.2.length
        outbox := e.outbox ++ (e.links.clear.2.filterMap (·.socket)).map .hangUp ++
          e.flows.clear.2.2.map .flow ++
          (Routing.withdraw w.routing [] e.config.routes).map .routed } := by
  unfold stop
  rw [hrunning]
  dsimp only [Bool.not_true, Bool.false_eq_true, if_false]
  exact congrArg (fun d => (d.noteRouting (Routing.withdraw w.routing [] d.config.routes)))
    (absorb_closeEffects _ w _)

lemma routed_stop (hrunning : e.running = true) :
    (e.stop w).1.routed = e.routed ++ Routing.withdraw w.routing [] e.config.routes := by
  have hlinks (sockets : List SocketId) :
      (sockets.map Effect.hangUp).filterMap Effect.routed? = [] := by
    simp [List.filterMap_eq_nil_iff, Effect.routed?]
  have hflows (effects : List FlowEffect) :
      (effects.map Effect.flow).filterMap Effect.routed? = [] := by
    simp [List.filterMap_eq_nil_iff, Effect.routed?]
  rw [stop_of_running hrunning, routed, List.filterMap_append, List.filterMap_append,
    List.filterMap_append, hlinks, hflows, filterMap_routed, List.append_nil, List.append_nil]
  rfl

/-- Nothing stays behind a stop. -/
lemma vacant_stop (hrunning : e.running = true) : (e.stop w).1.Vacant := by
  have hindex : e.flows.clear.1.bySource = .empty :=
    (FlowTable.index_closeAll { e.flows with bySource := .empty } _).1
  have hnone : ∀ source, e.flows.clear.1.find? source = none := by
    intro source
    rw [FlowTable.find?, hindex]
    rfl
  rw [stop_of_running hrunning]
  exact
    { links := ⟨rfl, fun _ => rfl⟩
      ports := fun _ => rfl
      flows := ⟨congrArg Table.size hindex, hnone⟩
      fragments := rfl }

/-- A stop closes whatever is live, and the sockets that it has. -/
lemma releases_stop (hlabelled : e.links.Labelled) (hsound : e.flows.Sound)
    (hrunning : e.running = true) : e.Releases (e.stop w).1 := by
  have hlive : ∀ key l, e.links.findTuple key = some l →
      l.id ∈ e.links.live ∧ e.links.link? l.id = some l := by
    intro key l hl
    obtain ⟨id, hid, hknown⟩ := Option.bind_eq_some_iff.mp hl
    obtain rfl := hlabelled id l hknown
    exact ⟨Table.mem_values_iff.mpr ⟨key, hid⟩, hknown⟩
  rw [stop_of_running hrunning]
  constructor
  case links =>
    intro key l hl
    obtain ⟨hmem, hknown⟩ := hlive key l hl
    have hclosed := LinkTable.link?_clear (t := e.links) l.id
    rw [if_pos hmem, hknown] at hclosed
    exact ⟨l.dispose, hclosed, rfl, rfl, rfl⟩
  case flows =>
    intro source f hf
    exact ⟨f.close, FlowTable.flow?_clear hsound hf, rfl, rfl, rfl⟩
  case sockets =>
    refine ⟨_, (List.append_assoc ..).trans (List.append_assoc ..), ?_, ?_⟩
    · intro key l socket hl hsocket
      obtain ⟨hmem, hknown⟩ := hlive key l hl
      have hclosed : l ∈ e.links.clear.2 := List.mem_filterMap.mpr ⟨l.id, hmem, hknown⟩
      refine List.mem_append_left _ (List.mem_map.mpr ⟨socket, ?_, rfl⟩)
      exact List.mem_filterMap.mpr ⟨l, hclosed, hsocket⟩
    · intro source f socket hf hsocket
      refine List.mem_append_right _ (List.mem_append_left _ ?_)
      exact List.mem_map_of_mem (FlowTable.hungUp_mem_clear hf hsocket)

lemma succeeds_eq_false {event : Event} (hstart : event ≠ .start) (hstop : event ≠ .stop) :
    e.succeeds w event = false := by
  cases event with
  | start => exact absurd rfl hstart
  | stop => exact absurd rfl hstop
  | _ => rfl

/-- Only a start or a stop that succeeds matters for whether an engine runs. -/
lemma running_step (e : Engine) (w : Surroundings) (event : Event) :
    (e.step w event).running = true ↔
      if e.succeeds w event = true then event = .start else e.running = true := by
  by_cases hstart : event = .start
  · subst hstart
    by_cases hok : (e.start w).2 = .ok ()
    · obtain ⟨hrunning, -⟩ := start_eq_ok_iff.mp hok
      have hsuccess : e.succeeds w .start = true := decide_eq_true hok
      rw [start_eq hrunning] at hok
      rw [hsuccess, if_pos rfl, Engine.step, start_eq hrunning]
      exact iff_of_true (decide_eq_true hok) rfl
    · have hsame := congrArg Engine.running (start_of_error hok)
      simp [step, succeeds, hok, hsame]
  · by_cases hstop : event = .stop
    · subst hstop
      cases hrunning : e.running with
      | false => simp [step, succeeds, stop_of_stopped hrunning, hrunning]
      | true =>
        simp [step, succeeds, stop_eq_ok_iff.mpr hrunning, stop_of_running hrunning]
    · rw [succeeds_eq_false hstart hstop, (e.steady_step w event hstart hstop).running]
      simp

namespace RoutesBalance

lemma start (h : e.RoutesBalance) : (e.start w).1.RoutesBalance := by
  cases hrunning : e.running with
  | true => rwa [Engine.start, if_pos hrunning]
  | false =>
    intro route
    have hbefore := h route
    have happly := Routing.additions_apply w.routing e.config.routes e.config.dns route
    have hrouted := e.routed_noteRouting (Routing.apply w.routing e.config.routes e.config.dns).1
    rw [hrunning, if_neg Bool.false_ne_true] at hbefore
    rw [start_eq hrunning]
    simp only [decide_eq_true_eq]
    change Routing.additions route (e.noteRouting _).routed =
      Routing.deletions route (e.noteRouting _).routed + _
    rw [hrouted, Routing.additions_append, Routing.deletions_append, hbefore, happly, Nat.add_zero]
    exact (Nat.add_assoc ..).symm

lemma stop (h : e.RoutesBalance) : (e.stop w).1.RoutesBalance := by
  cases hrunning : e.running with
  | false => rwa [stop_of_stopped hrunning]
  | true =>
    intro route
    have hbefore := h route
    rw [hrunning, if_pos rfl] at hbefore
    rw [routed_stop hrunning, Routing.additions_append, Routing.deletions_append,
      Routing.additions_withdraw, Routing.deletions_withdraw, hbefore]
    simp [stop_of_running hrunning]

lemma step (h : e.RoutesBalance) (w : Surroundings) (event : Event) :
    (e.step w event).RoutesBalance := by
  by_cases hstart : event = .start
  · exact hstart ▸ h.start
  · by_cases hstop : event = .stop
    · exact hstop ▸ h.stop
    · have hsteady := e.steady_step w event hstart hstop
      intro route
      rw [hsteady.config, hsteady.running, hsteady.routed]
      exact h route

end RoutesBalance

end Steps

theorem running_run (e : Engine) (events : List (Surroundings × Event)) :
    (e.run events).running = true ↔
      (e.successes events).getLast?.elim (e.running = true) (· = .start) := by
  induction events generalizing e with
  | nil => rfl
  | cons x rest ih =>
    obtain ⟨w, event⟩ := x
    rw [run_cons, ih, successes, running_step]
    cases e.succeeds w event with
    | false => rfl
    | true =>
      simp only [if_true, List.getLast?_cons]
      cases ((e.step w event).successes rest).getLast? <;> rfl

theorem routesBalance_run {e : Engine} (h : e.RoutesBalance)
    (events : List (Surroundings × Event)) :
    (e.run events).RoutesBalance := by
  induction events generalizing e with
  | nil => exact h
  | cons x rest ih => exact ih (h.step x.1 x.2)

/-- In every state that a run leads to, and whatever the routing service accepts, a start succeeds
exactly if the engine does not run and no call to add a route or to set the name servers is
refused, and otherwise changes nothing but what has been called; a stop succeeds exactly if the
engine runs, leaves no link, no flow and no fragments, and closes those that were there. The engine
runs exactly if the last one
of the two that succeeded was a start. Each route was deleted as often as it was added, but for one
for each time it is configured while the engine runs. -/
theorem lifecycle_balanced {c : Config} {e₀ : Engine} (hbuild : build c true = .ok e₀)
    (events : List (Surroundings × Event)) :
    let e := e₀.run events
    (∀ w : Surroundings,
      ((e.start w).2 = .ok () ↔ e.running = false ∧
        Routing.Accepts w.routing (Routing.installation c.routes c.dns)) ∧
      ((e.start w).2 ≠ .ok () → (e.start w).1 = { e with outbox := (e.start w).1.outbox }) ∧
      ((e.stop w).2 = .ok () ↔ e.running = true) ∧
      ((e.stop w).2 = .ok () → (e.stop w).1.Vacant ∧ e.Releases (e.stop w).1) ∧
      ((e.stop w).2 ≠ .ok () → (e.stop w).1 = e)) ∧
    (e.running = true ↔ (e₀.successes events).getLast? = some .start) ∧
    ∀ route, Routing.additions route e.routed = Routing.deletions route e.routed +
      if e.running then c.routes.count route else 0 := by
  intro e
  obtain ⟨hsound, hconfig⟩ : e.Sound ∧ e.config = c := sound_run hbuild events
  have hflows : e.flows.Sound := flows_sound_run hbuild events
  obtain ⟨-, rfl⟩ := build_eq_ok hbuild
  refine ⟨fun w => ⟨?_, start_of_error, stop_eq_ok_iff, ?_, ?_⟩, ?_, ?_⟩
  · rw [start_eq_ok_iff, hconfig]
  · intro hok
    have hrunning := stop_eq_ok_iff.mp hok
    exact ⟨vacant_stop hrunning, releases_stop hsound.links.labelled hflows hrunning⟩
  · intro herror
    rw [Ne, stop_eq_ok_iff, Bool.not_eq_true] at herror
    rw [stop_of_stopped herror]
  · rw [running_run]
    cases ((ofConfig c).successes events).getLast? <;> simp [ofConfig]
  · have hbalance : e.RoutesBalance := routesBalance_run (fun _ => rfl) events
    intro route
    rw [hbalance route, hconfig]

/-- A start is refused at the second route of three. The next one installs them, one of them twice,
and another is refused because the engine runs; so is a second stop after the first, which closes
the link and the flow that were opened meanwhile, and their sockets 7 and 9. -/
theorem lifecycle_balanced_refused :
    let low : Route := ⟨⟨0, 0, 0, 0⟩, 1⟩
    let high : Route := ⟨⟨128, 0, 0, 0⟩, 1⟩
    let c : Config := { routes := [low, high, low] }
    let refusing : Surroundings :=
      { routing := fun _ call => if call = .add high then some (.routing "refused") else none }
    let syn : Segment :=
      { source := ⟨⟨10, 0, 0, 5⟩, 51000⟩, destination := ⟨⟨93, 184, 216, 34⟩, 80⟩
        flags := { syn := true } }
    let query : Datagram := ⟨⟨⟨10, 0, 0, 5⟩, 5000⟩, ⟨⟨8, 8, 8, 8⟩, 53⟩, [1, 2, 3]⟩
    let started : List (Surroundings × Event) :=
      [(refusing, .start), ({}, .start), ({}, .start), ({}, .input syn.toFrame.toBytes),
        ({}, .connected 1 7), ({}, .input query.toFrame.toBytes), ({}, .flow (.bound 0 9))]
    let stopped : List (Surroundings × Event) := [({}, .stop), ({}, .stop)]
    let e := (ofConfig c).run started
    let e' := (ofConfig c).run (started ++ stopped)
    build c true = .ok (ofConfig c) ∧
      ((ofConfig c).start refusing).2 = .error (.routing "refused") ∧
      (ofConfig c).successes started = [.start] ∧ e.running = true ∧ e.links.size = 1 ∧
      e.flows.size = 1 ∧ (e.stop {}).1.Vacant ∧ .hangUp 7 ∈ (e.stop {}).1.outbox ∧
      .flow (.hungUp 9) ∈ (e.stop {}).1.outbox ∧ Routing.deletions low e.routed = 1 ∧
      Routing.additions low e.routed = 3 ∧
      (ofConfig c).successes (started ++ stopped) = [.start, .stop] ∧ e'.running = false ∧
      Routing.deletions low e'.routed = 3 ∧ Routing.additions low e'.routed = 3 := by
  intro low high c refusing syn query started stopped e e'
  have hbuild : build c true = .ok (ofConfig c) := rfl
  obtain ⟨hcalls, hlast, hroutes⟩ := lifecycle_balanced hbuild started
  obtain ⟨-, hlast', hroutes'⟩ := lifecycle_balanced hbuild (started ++ stopped)
  have hsuccesses : (ofConfig c).successes started = [.start] := by decide +kernel
  have hsuccesses' : (ofConfig c).successes (started ++ stopped) = [.start, .stop] := by
    decide +kernel
  have hrunning : e.running = true := hlast.mpr (hsuccesses ▸ rfl)
  have hrunning' : e'.running = false := by
    rw [← Bool.not_eq_true, hlast', hsuccesses']
    nofun
  obtain ⟨-, -, hstop, hstopped, -⟩ := hcalls {}
  obtain ⟨hvacant, -, -, effects, houtbox, hlinks, hflows⟩ := hstopped (hstop.mpr hrunning)
  obtain ⟨l, hl, hsocket⟩ : ∃ l, e.links.findTuple (syn.source, syn.destination) = some l ∧
      l.socket = some 7 := ⟨(e.links.link? 1).getD default, by decide +kernel⟩
  obtain ⟨f, hf, hsocket'⟩ : ∃ f, e.flows.find? query.source = some f ∧ f.socket = some 9 :=
    ⟨(e.flows.flow? 0).getD default, by decide +kernel⟩
  have hdeletions : Routing.deletions low e.routed = 1 := by decide +kernel
  have hdeletions' : Routing.deletions low e'.routed = 3 := by decide +kernel
  refine ⟨hbuild, by decide +kernel, hsuccesses, hrunning, by decide +kernel, by decide +kernel,
    hvacant, ?_, ?_, hdeletions, ?_, hsuccesses', hrunning', hdeletions', ?_⟩
  · rw [houtbox]
    exact List.mem_append_right _ (hlinks _ l 7 hl hsocket)
  · rw [houtbox]
    exact List.mem_append_right _ (hflows _ f 9 hf hsocket')
  · rw [hroutes low, hdeletions, hrunning]
    rfl
  · rw [hroutes' low, hdeletions', hrunning']
    rfl

end GuestNat.Engine
