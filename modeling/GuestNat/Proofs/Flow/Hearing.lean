import GuestNat.Proofs.Flow.History

/-!
# Flows that hear

A flow reads what arrives from when its sender is given a socket. A receive that fails ends this for
good, but the flow stays in the table, has its socket and takes what the guest sends. So a flow that
has a socket hears exactly if no receive of it has failed (`hears_unless_failed`).
-/
namespace GuestNat

namespace Flow

/-- Whether an event for a flow ends that it reads what arrives. -/
def goesDeaf (f : Flow) : FlowEvent → Bool
  | .receiveFailed _ => f.listening.isSome
  | _ => false

/-- What a flow reads from, by whether a receive of it has failed. -/
structure Hears (f : Flow) (failed : Bool) : Prop where
  waits : f.sender = .binding → f.listening = none ∧ failed = false
  deaf : failed = true → f.listening = none
  listens : ∀ socket, f.socket = some socket → failed = false → f.listening = some socket
  opened : ∀ socket, f.socket = some socket → f.closed = false

/-- The flow, if it is known, reads accordingly. If it is not, no receive of it has failed. -/
def Hearing (failed : Bool) : Option Flow → Prop
  | some f => f.Hears failed
  | none => failed = false

namespace Hears

variable {f : Flow} {failed : Bool} (h : f.Hears failed)

lemma fresh (id : FlowId) (source : Endpoint) (now : Nat) :
    (Flow.fresh id source now).Hears false where
  waits _ := ⟨rfl, rfl⟩
  deaf := nofun
  listens := nofun
  opened := nofun

include h

lemma enqueue (d : Datagram) (now : Nat) : (f.enqueue d now).Hears failed := { h with }

lemma touch (now : Nat) : (f.touch now).Hears failed := { h with }

lemma close : f.close.Hears failed where
  waits := h.waits
  deaf := h.deaf
  listens := nofun
  opened := nofun

lemma finish (queue : List (Bytes × Endpoint)) :
    ({ f with sender := .finished, queue } : Flow).Hears failed :=
  { h with waits := nofun }

lemma bind (hsender : f.sender = .binding) (socket : SocketId) :
    (f.bind socket).1.Hears failed := by
  unfold Flow.bind
  split_ifs with hclosed
  · exact h.finish []
  · obtain ⟨-, rfl⟩ := h.waits hsender
    exact
      { waits := nofun
        deaf := nofun
        listens := fun _ hs _ => hs
        opened := fun _ _ => Bool.eq_false_iff.mpr hclosed }

lemma receiveFailed :
    ({ f with listening := none } : Flow).Hears (failed || f.listening.isSome) where
  waits hsender := by
    obtain ⟨hnone, hfailed⟩ := h.waits hsender
    rw [hnone, hfailed]
    exact ⟨rfl, rfl⟩
  deaf _ := rfl
  listens socket hsocket hor := by
    obtain ⟨hfailed, hnone⟩ := Bool.or_eq_false_iff.mp hor
    rw [h.listens socket hsocket hfailed] at hnone
    cases hnone
  opened := h.opened

lemma react (now : Nat) (event : FlowEvent) :
    (f.react now event).1.Hears (failed || f.goesDeaf event) := by
  cases event with
  | bound id socket =>
    simp only [goesDeaf, Bool.or_false, Flow.react]
    split_ifs with hsender
    · exact h.bind hsender socket
    · exact h
  | bindFailed id =>
    simp only [goesDeaf, Bool.or_false, Flow.react]
    split_ifs
    · exact h.close.finish []
    · exact h
  | sendNext id =>
    simp only [goesDeaf, Bool.or_false, Flow.react, sendNext]
    split
    · exact { h with }
    · split_ifs
      · exact h
      · exact h.finish f.queue
    · exact h
  | received id sender payload =>
    simp only [goesDeaf, Bool.or_false, Flow.react, receive]
    split
    · exact h.touch now
    · exact h
  | receiveFailed id => exact h.receiveFailed

end Hears

end Flow

namespace FlowTable

/-- Whether an action ends that a flow reads what arrives. -/
def deafens (t : FlowTable) (id : FlowId) : FlowAction → Bool
  | .event event => decide (event.flow = id) && (t.flow? id).any (·.goesDeaf event)
  | _ => false

/-- Whether a receive of a flow that was reading has failed in a history. -/
def receiveFailed (t : FlowTable) (id : FlowId) : List (Nat × FlowAction) → Bool
  | [] => false
  | (now, a) :: rest => t.deafens id a || (t.act now a).1.receiveFailed id rest

section

variable {t : FlowTable} {id : FlowId} {failed : Bool}

lemma hearing_put {f : Flow} (hf : f.id = id → f.Hears failed)
    (h : Flow.Hearing failed (t.flow? id)) : Flow.Hearing failed ((t.put f).flow? id) := by
  rw [flow?_put]
  split_ifs with hid
  · exact hf hid.symm
  · exact h

lemma hearing_send (hsound : t.Sound) (h : Flow.Hearing failed (t.flow? id)) (d : Datagram)
    (now : Nat) : Flow.Hearing failed ((t.send d now).1.flow? id) := by
  rcases t.send_cases hsound d now with ⟨f, -, hf, -, hs⟩ | hs
  · have hears : f.id = id → f.Hears failed := by
      rintro rfl
      rwa [hf] at h
    rcases hs with hs | hs
    · rw [hs]
      exact hearing_put (fun hid => (hears hid).enqueue d now) h
    · rw [hs]
      exact hearing_put (fun hid => (hears hid).touch now) h
  · have hears : t.nextId = id → (Flow.fresh t.nextId d.source now).Hears failed := by
      rintro rfl
      rw [hsound.flow?_nextId] at h
      obtain rfl : failed = false := h
      exact .fresh t.nextId d.source now
    rw [hs]
    refine hearing_put (fun hid => (hears hid).enqueue d now) ?_
    rw [flow?_openFlow]
    split_ifs with hid
    · exact hears hid.symm
    · exact h

lemma hearing_step (hsound : t.Sound) (h : Flow.Hearing failed (t.flow? id)) (now : Nat)
    (event : FlowEvent) :
    Flow.Hearing (failed || t.deafens id (.event event)) ((t.step now event).1.flow? id) := by
  rw [step_eq_update, flow?_update hsound (fun f => f.id_react now event), deafens]
  by_cases hid : id = event.flow
  · rw [if_pos hid, decide_eq_true hid.symm, Bool.true_and]
    cases hf : t.flow? id with
    | none =>
      rw [hf] at h
      exact (Bool.or_false failed).trans h
    | some f =>
      rw [hf] at h
      exact Flow.Hears.react h now event
  · rw [if_neg hid, decide_eq_false (Ne.symm hid), Bool.false_and, Bool.or_false]
    exact h

lemma hearing_closeAll {fs : List Flow} (hfs : ∀ f ∈ fs, t.flow? f.id = some f)
    (h : Flow.Hearing failed (t.flow? id)) (index : Table Endpoint FlowId) :
    Flow.Hearing failed ((closeAll { t with bySource := index } fs).1.flow? id) := by
  rw [flow?_closeAll hfs]
  split
  · cases hf : t.flow? id with
    | none => rwa [hf] at h
    | some f =>
      rw [hf] at h
      exact h.close
  · exact h

/-- What an action makes of a flow reads accordingly. -/
theorem hearing_act (hsound : t.Sound) (h : Flow.Hearing failed (t.flow? id)) (now : Nat)
    (a : FlowAction) :
    Flow.Hearing (failed || t.deafens id a) ((t.act now a).1.flow? id) := by
  cases a with
  | send d =>
    simp only [deafens, Bool.or_false]
    exact hearing_send hsound h d now
  | event event => exact hearing_step hsound h now event
  | evict timeout =>
    simp only [deafens, Bool.or_false]
    exact hearing_closeAll (flow?_of_mem_filterMap hsound) h _
  | clear =>
    simp only [deafens, Bool.or_false]
    exact hearing_closeAll (flow?_of_mem_filterMap hsound) h _

theorem hearing_after (hsound : t.Sound) (h : Flow.Hearing failed (t.flow? id))
    (history : List (Nat × FlowAction)) :
    Flow.Hearing (failed || t.receiveFailed id history) ((t.after history).flow? id) := by
  induction history generalizing t failed with
  | nil => rwa [receiveFailed, Bool.or_false]
  | cons x rest ih =>
    rw [receiveFailed, ← Bool.or_assoc]
    exact ih (hsound.act x.1 x.2) (hearing_act hsound h x.1 x.2)

lemma send_of_find? {source : Endpoint} {f : Flow} (hfind : t.find? source = some f)
    (hopen : f.closed = false) {d : Datagram} (hd : d.source = source) (now : Nat) :
    (t.send d now).2.1 = f.hasRoom := by
  have hfor : t.flowFor d.source now = (t, f, []) := by
    rw [flowFor, hd, hfind, Option.filter_some, hopen]
    rfl
  rw [send, hfor]
  change (if f.hasRoom then _ else _ : FlowTable × Bool × List FlowEffect).2.1 = _
  split_ifs with hroom
  · exact hroom.symm
  · exact (Bool.eq_false_iff.mpr hroom).symm

lemma effects_received {f : Flow} (hf : t.flow? f.id = some f) (now : Nat) (sender : Endpoint)
    (payload : Bytes) : (t.step now (.received f.id (.v4 sender) payload)).2 =
      if f.listening.isSome then [.replied f.id ⟨sender, f.source, payload⟩] else [] := by
  rw [step, effects_update, hf, Option.map_some, Option.getD_some]
  unfold Flow.receive
  cases f.listening <;> rfl

end

/-- After any history, a live flow that has a socket is open and takes what the guest sends while
there is room in its queue. It reads from its socket, and hands on what arrives there from an IPv4
sender, unless a receive of it has failed; then it reads from nothing, and hands on nothing. -/
theorem hears_unless_failed (history : List (Nat × FlowAction)) {source : Endpoint} {f : Flow}
    {socket : SocketId} (hfind : (after {} history).find? source = some f)
    (hsocket : f.socket = some socket) :
    let t := after {} history
    let failed := FlowTable.receiveFailed {} f.id history
    f.closed = false ∧
      (∀ (now : Nat) (d : Datagram), d.source = source → (t.send d now).2.1 = f.hasRoom) ∧
      f.listening = (if failed then none else some socket) ∧
      ∀ (now : Nat) (sender : Endpoint) (payload : Bytes),
        (t.step now (.received f.id (.v4 sender) payload)).2 =
          if failed then [] else [.replied f.id ⟨sender, source, payload⟩] := by
  intro t failed
  obtain ⟨-, hflow, hsource⟩ := (Sound.empty.after history).of_find? hfind
  have hears : f.Hears failed := by
    have h : Flow.Hearing (false || failed) (t.flow? f.id) := hearing_after Sound.empty rfl history
    rwa [Bool.false_or, hflow] at h
  have hopen := hears.opened socket hsocket
  have hlistening : f.listening = if failed then none else some socket := by
    cases hfailed : failed with
    | false => exact hears.listens socket hsocket hfailed
    | true => exact hears.deaf hfailed
  refine ⟨hopen, fun now d hd => send_of_find? hfind hopen hd now, hlistening,
    fun now sender payload => ?_⟩
  rw [effects_received hflow, hlistening, hsource]
  cases failed <;> rfl

/-- Two guests have flows with sockets, and a receive of the second flow has failed. The first one
still hears. -/
theorem hears_unless_failed_two_guests :
    let target : Endpoint := ⟨⟨93, 184, 216, 34⟩, 53⟩
    let first : Datagram := ⟨⟨⟨10, 0, 0, 5⟩, 5000⟩, target, [1]⟩
    let second : Datagram := { first with source := ⟨⟨10, 0, 0, 6⟩, 5000⟩ }
    let history : List (Nat × FlowAction) :=
      [(0, .send first), (0, .send second), (1, .event (.bound 0 7)), (1, .event (.bound 1 8)),
        (2, .event (.receiveFailed 1))]
    let t := after {} history
    (∃ f, t.find? first.source = some f ∧ f.socket = some 7 ∧ f.listening = some 7) ∧
      (∃ g, t.find? second.source = some g ∧ g.socket = some 8 ∧ g.listening = none) ∧
      (t.step 3 (.received 0 (.v4 target) [2])).2 = [.replied 0 ⟨target, first.source, [2]⟩] ∧
      (t.step 3 (.received 1 (.v4 target) [2])).2 = [] := by
  intro target first second history
  have hfirst : ((after {} history).find? first.source).map (fun f => (f.id, f.socket)) =
      some (0, some 7) := by decide +kernel
  have hsecond : ((after {} history).find? second.source).map (fun f => (f.id, f.socket)) =
      some (1, some 8) := by decide +kernel
  have hheard : receiveFailed {} 0 history = false := by decide +kernel
  have hfailed : receiveFailed {} 1 history = true := by decide +kernel
  obtain ⟨f, hf, hfields⟩ := Option.map_eq_some_iff.mp hfirst
  obtain ⟨hfid, hfsocket⟩ := Prod.ext_iff.mp hfields
  obtain ⟨g, hg, hfields'⟩ := Option.map_eq_some_iff.mp hsecond
  obtain ⟨hgid, hgsocket⟩ := Prod.ext_iff.mp hfields'
  obtain ⟨-, -, hflistening, hfreplied⟩ := hears_unless_failed history hf hfsocket
  obtain ⟨-, -, hglistening, hgreplied⟩ := hears_unless_failed history hg hgsocket
  dsimp only at hfid hgid
  rw [hfid, hheard] at hflistening hfreplied
  rw [hgid, hfailed] at hglistening hgreplied
  exact ⟨⟨f, hf, hfsocket, hflistening⟩, ⟨g, hg, hgsocket, hglistening⟩, hfreplied 3 target [2],
    hgreplied 3 target [2]⟩

/-- A receive fails. The flow stays in the table, is open, has its socket and takes the next
datagram of the guest, but what arrives on the socket goes nowhere. -/
theorem open_flow_deaf :
    let target : Endpoint := ⟨⟨93, 184, 216, 34⟩, 53⟩
    let query : Datagram := ⟨⟨⟨10, 0, 0, 5⟩, 40000⟩, target, [1]⟩
    let history : List (Nat × FlowAction) :=
      [(0, .send query), (0, .event (.bound 0 1)), (0, .event (.sendNext 0)),
        (0, .event (.receiveFailed 0))]
    let t := after {} history
    t.bySource.get? query.source = some 0 ∧ t.find? query.source = t.flow? 0 ∧
      (t.flow? 0).map Flow.closed = some false ∧ (t.flow? 0).bind Flow.socket = some 1 ∧
      (t.send query 0).2.1 = true ∧ (t.flow? 0).bind Flow.listening = none ∧
      (t.step 0 (.received 0 (.v4 target) [4])).2 = [] := by
  decide +kernel

end FlowTable

end GuestNat
