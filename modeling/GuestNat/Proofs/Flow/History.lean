import Mathlib.Data.List.Basic
import Mathlib.Data.List.Induction
import GuestNat.Flow.Table

/-!
# Histories of the flow table

A history is what is done to a flow table, one action after another, in any order. The log of a
flow collects what the actions are about: what was taken for it and what arrived for it, the
socket that its sender was given, and what it sent and answered. `FlowFate` says what one action
can make of a flow and what it adds to its log, and nothing else can happen (`fate_act`).
-/
namespace GuestNat

/-- What is done to a flow table. -/
inductive FlowAction where
  | send (datagram : Datagram)
  | event (event : FlowEvent)
  /-- The flows that have been idle for longer than a time are evicted. -/
  | evict (timeout : Nat)
  | clear
  deriving DecidableEq, Repr

/-- What a flow was given, and what it did with it. -/
structure FlowLog where
  /-- The datagrams of the guest that it took. -/
  taken : List Datagram := []
  /-- The sockets that its sender was given. -/
  bound : List SocketId := []
  /-- What arrived on its socket from IPv4 senders. -/
  arrived : List (Endpoint × Bytes) := []
  /-- What it handed to sockets, and for which target. -/
  sent : List (SocketId × Bytes × Endpoint) := []
  /-- The datagrams that it handed on to the guest. -/
  replied : List Datagram := []
  deriving DecidableEq, Repr

namespace FlowLog

instance : Append FlowLog where
  append x y := ⟨x.taken ++ y.taken, x.bound ++ y.bound, x.arrived ++ y.arrived, x.sent ++ y.sent,
    x.replied ++ y.replied⟩

variable (x y z : FlowLog)

lemma append_eq : x ++ y = ⟨x.taken ++ y.taken, x.bound ++ y.bound, x.arrived ++ y.arrived,
    x.sent ++ y.sent, x.replied ++ y.replied⟩ := rfl

lemma append_assoc : x ++ y ++ z = x ++ (y ++ z) := by simp only [append_eq, List.append_assoc]

@[simp] theorem append_empty : x ++ {} = x := by simp only [append_eq, List.append_nil]

end FlowLog

/-- What a flow hands to a socket. -/
def FlowEffect.sent? (id : FlowId) : FlowEffect → Option (SocketId × Bytes × Endpoint)
  | .sent j socket payload target => if j = id then some (socket, payload, target) else none
  | _ => none

/-- What a flow hands on to the guest. -/
def FlowEffect.replied? (id : FlowId) : FlowEffect → Option Datagram
  | .replied j d => if j = id then some d else none
  | _ => none

/-- What arrives for a flow from an IPv4 sender. -/
def FlowAction.arrived (id : FlowId) : FlowAction → List (Endpoint × Bytes)
  | .event (.received j (.v4 sender) payload) => if j = id then [(sender, payload)] else []
  | _ => []

namespace Flow

def fresh (id : FlowId) (source : Endpoint) (now : Nat) : Flow := { id, source, lastActive := now }

/-- The flow with a datagram put into its queue. -/
def enqueue (f : Flow) (d : Datagram) (now : Nat) : Flow :=
  { f.touch now with queue := f.queue ++ [(d.payload, d.destination)] }

@[simp] theorem id_fresh (id : FlowId) (source : Endpoint) (now : Nat) :
    (fresh id source now).id = id := rfl

@[simp] theorem id_touch (f : Flow) (now : Nat) : (f.touch now).id = f.id := rfl

@[simp] theorem id_close (f : Flow) : f.close.id = f.id := rfl

@[simp] theorem id_enqueue (f : Flow) (d : Datagram) (now : Nat) :
    (f.enqueue d now).id = f.id := rfl

def react (now : Nat) (f : Flow) : FlowEvent → Flow × List FlowEffect
  | .bound _ socket => if f.sender = .binding then f.bind socket else (f, [])
  | .bindFailed _ =>
    if f.sender = .binding then
      ({ f.close with sender := .finished, queue := [] }, f.closeEffects)
    else (f, [])
  | .sendNext _ => f.sendNext
  | .received _ sender payload => f.receive now sender payload
  | .receiveFailed _ => ({ f with listening := none }, [])

/-- The socket that an event for a flow gives to its sender, if that still waits for one. -/
def given (f : Flow) : FlowEvent → List SocketId
  | .bound _ socket => if f.sender = .binding then [socket] else []
  | _ => []

end Flow

def FlowEvent.flow : FlowEvent → FlowId
  | .bound id _ | .bindFailed id | .sendNext id | .received id _ _ | .receiveFailed id => id

/-- What one action makes of a flow, and what it adds to its log. -/
inductive FlowFate (now : Nat) (id : FlowId) : Option Flow → Option Flow → FlowLog → Prop
  | spared (o : Option Flow) : FlowFate now id o o {}
  | opened (d : Datagram) :
    FlowFate now id none (some ((Flow.fresh id d.source now).enqueue d now)) { taken := [d] }
  | taken (f : Flow) (d : Datagram) (hsource : f.source = d.source) :
    FlowFate now id (some f) (some (f.enqueue d now)) { taken := [d] }
  | refused (f : Flow) : FlowFate now id (some f) (some (f.touch now)) {}
  | closed (f : Flow) : FlowFate now id (some f) (some f.close) {}
  | bound (f : Flow) (socket : SocketId) (hsender : f.sender = .binding) :
    FlowFate now id (some f) (some (f.bind socket).1) { bound := [socket] }
  | bindFailed (f : Flow) (hsender : f.sender = .binding) :
    FlowFate now id (some f) (some { f.close with sender := .finished, queue := [] }) {}
  | sent (f : Flow) (socket : SocketId) (x : Bytes × Endpoint) (rest : List (Bytes × Endpoint))
    (hsender : f.sender = .sending socket) (hqueue : f.queue = x :: rest) :
    FlowFate now id (some f) (some { f with queue := rest }) { sent := [(socket, x)] }
  /-- The sender ends behind the last datagram. -/
  | drained (f : Flow) : FlowFate now id (some f) (some { f with sender := .finished }) {}
  | answered (f : Flow) (socket : SocketId) (hlistening : f.listening = some socket)
    (sender : Endpoint) (payload : Bytes) :
    FlowFate now id (some f) (some (f.touch now))
      { arrived := [(sender, payload)], replied := [⟨sender, f.source, payload⟩] }
  /-- What arrives finds no one to read it. -/
  | unheard (o : Option Flow) (sender : Endpoint) (payload : Bytes) :
    FlowFate now id o o { arrived := [(sender, payload)] }
  /-- Replies are read no more. -/
  | deaf (f : Flow) : FlowFate now id (some f) (some { f with listening := none }) {}

namespace FlowTable

def act (t : FlowTable) (now : Nat) : FlowAction → FlowTable × List FlowEffect
  | .send d => ((t.send d now).1, (t.send d now).2.2)
  | .event event => t.step now event
  | .evict timeout => ((t.evict now timeout).1, (t.evict now timeout).2.2)
  | .clear => (t.clear.1, t.clear.2.2)

/-- What an action makes a flow take: the datagram of a send that says so, if the flow is the one
of its source. -/
def taken (t : FlowTable) (now : Nat) (id : FlowId) : FlowAction → List Datagram
  | .send d =>
    if (t.send d now).2.1 = true ∧ (t.send d now).1.bySource.get? d.source = some id then [d]
    else []
  | _ => []

/-- The socket that an action gives to the sender of a flow. -/
def given (t : FlowTable) (id : FlowId) : FlowAction → List SocketId
  | .event event => if event.flow = id then (t.flow? id).toList.flatMap (·.given event) else []
  | _ => []

/-- What an action adds to the log of a flow. -/
def entry (t : FlowTable) (now : Nat) (a : FlowAction) (id : FlowId) : FlowLog where
  taken := t.taken now id a
  bound := t.given id a
  arrived := a.arrived id
  sent := (t.act now a).2.filterMap (·.sent? id)
  replied := (t.act now a).2.filterMap (·.replied? id)

def after (t : FlowTable) : List (Nat × FlowAction) → FlowTable
  | [] => t
  | (now, a) :: rest => (t.act now a).1.after rest

def effects (t : FlowTable) : List (Nat × FlowAction) → List FlowEffect
  | [] => []
  | (now, a) :: rest => (t.act now a).2 ++ (t.act now a).1.effects rest

def log (t : FlowTable) (id : FlowId) : List (Nat × FlowAction) → FlowLog
  | [] => {}
  | (now, a) :: rest => t.entry now a id ++ (t.act now a).1.log id rest

/-- What holds of the flows of a table at any time. -/
structure Sound (t : FlowTable) : Prop where
  labelled : ∀ id f, t.flow? id = some f → f.id = id
  old : ∀ id f, t.flow? id = some f → id < t.nextId
  /-- The flow that an endpoint has is its own. -/
  indexed : ∀ source id, t.bySource.get? source = some id →
    ∃ f, t.flow? id = some f ∧ f.source = source

lemma Sound.flow?_nextId {t : FlowTable} (h : t.Sound) : t.flow? t.nextId = none := by
  cases hf : t.flow? t.nextId with
  | none => rfl
  | some f => exact absurd (h.old _ f hf) (Nat.lt_irrefl _)

lemma Sound.of_find? {t : FlowTable} (h : t.Sound) {source : Endpoint} {f : Flow}
    (hfind : t.find? source = some f) :
    t.bySource.get? source = some f.id ∧ t.flow? f.id = some f ∧ f.source = source := by
  obtain ⟨id, hid, hflow⟩ := Option.bind_eq_some_iff.mp hfind
  obtain ⟨g, hg, hsource⟩ := h.indexed _ _ hid
  obtain rfl := Option.some.inj (hflow.symm.trans hg)
  obtain rfl := h.labelled id f hflow
  exact ⟨hid, hflow, hsource⟩

section Views

variable {t : FlowTable} {now : Nat}

theorem flow?_put (f : Flow) (id : FlowId) :
    (t.put f).flow? id = if id = f.id then some f else t.flow? id :=
  Table.get?_insert ..

@[simp] theorem bySource_put (f : Flow) : (t.put f).bySource = t.bySource := rfl

lemma flow?_openFlow (source : Endpoint) (now : Nat) (id : FlowId) :
    (t.openFlow source now).1.flow? id =
      if id = t.nextId then some (Flow.fresh t.nextId source now) else t.flow? id :=
  Table.get?_insert ..

lemma bySource_openFlow (source : Endpoint) (now : Nat) (s : Endpoint) :
    (t.openFlow source now).1.bySource.get? s =
      if s = source then some t.nextId else t.bySource.get? s :=
  Table.get?_insert ..

lemma flow?_update (h : t.Sound) {g : Flow → Flow × List FlowEffect}
    (hg : ∀ f, (g f).1.id = f.id) (j id : FlowId) :
    (t.update j g).1.flow? id =
      if id = j then (t.flow? id).map fun f => (g f).1 else t.flow? id := by
  unfold update
  cases hj : t.flow? j with
  | none =>
    dsimp only
    split
    · rename_i hid
      rw [hid, hj]
      rfl
    · rfl
  | some f =>
    dsimp only
    rw [flow?_put, hg, h.labelled j f hj]
    split
    · rename_i hid
      rw [hid, hj]
      rfl
    · rfl

lemma effects_update (g : Flow → Flow × List FlowEffect) (j : FlowId) :
    (t.update j g).2 = ((t.flow? j).map fun f => (g f).2).getD [] := by
  unfold update
  cases t.flow? j <;> rfl

/-- What a send of the guest can come to: its endpoint has an open flow, with room in the queue
or without, or a flow is opened. -/
theorem send_cases (h : t.Sound) (d : Datagram) (now : Nat) :
    (∃ f, t.bySource.get? d.source = some f.id ∧ t.flow? f.id = some f ∧ f.source = d.source ∧
      (t.send d now = (t.put (f.enqueue d now), true, [.queued f.id d.payload d.destination]) ∨
        t.send d now = (t.put (f.touch now), false, []))) ∨
    t.send d now =
      ((t.openFlow d.source now).1.put ((Flow.fresh t.nextId d.source now).enqueue d now), true,
        [.opened t.nextId, .queued t.nextId d.payload d.destination]) := by
  cases hf : (t.find? d.source).filter (!·.closed) with
  | none =>
    right
    simp only [send, flowFor, hf]
    rfl
  | some f =>
    left
    obtain ⟨hfind, -⟩ := Option.filter_eq_some_iff.mp hf
    obtain ⟨hid, hflow, hsource⟩ := h.of_find? hfind
    refine ⟨f, hid, hflow, hsource, ?_⟩
    have hroom : (f.touch now).hasRoom = f.hasRoom := rfl
    simp only [send, flowFor, hf, hroom]
    cases f.hasRoom with
    | true => exact .inl rfl
    | false => exact .inr rfl

/-- Flows that are closed are changed in nothing else, and no others are, whatever becomes of the
index. -/
lemma flow?_closeAll {fs : List Flow} (hfs : ∀ f ∈ fs, t.flow? f.id = some f)
    (index : Table Endpoint FlowId) (id : FlowId) :
    (closeAll { t with bySource := index } fs).1.flow? id =
      if ∃ f ∈ fs, f.id = id then (t.flow? id).map Flow.close else t.flow? id := by
  unfold closeAll
  dsimp only
  induction fs using List.reverseRecOn with
  | nil => rfl
  | append_singleton rest f ih =>
    rw [List.forall_mem_append, List.forall_mem_singleton] at hfs
    rw [List.foldl_append, List.foldl_cons, List.foldl_nil, flow?_put, Flow.id_close,
      ih hfs.1]
    by_cases hid : id = f.id
    · have hmem : ∃ g ∈ rest ++ [f], g.id = id := ⟨f, List.mem_concat_self, hid.symm⟩
      rw [if_pos hid, if_pos hmem, hid, hfs.2]
      rfl
    · have hmem : (∃ g ∈ rest ++ [f], g.id = id) ↔ ∃ g ∈ rest, g.id = id := by
        simp [or_and_right, exists_or, Ne.symm hid]
      rw [if_neg hid]
      exact (if_congr hmem rfl rfl).symm

lemma index_update (t : FlowTable) (j : FlowId) (g : Flow → Flow × List FlowEffect) :
    (t.update j g).1.bySource = t.bySource ∧ (t.update j g).1.nextId = t.nextId := by
  unfold update
  split <;> exact ⟨rfl, rfl⟩

lemma index_closeAll (t : FlowTable) (fs : List Flow) :
    (t.closeAll fs).1.bySource = t.bySource ∧ (t.closeAll fs).1.nextId = t.nextId := by
  unfold closeAll
  dsimp only
  induction fs generalizing t with
  | nil => exact ⟨rfl, rfl⟩
  | cons f rest ih => exact ih (t.put f.close)

/-- An eviction takes endpoints out of the index, and brings none in. -/
lemma index_evict (t : FlowTable) (now timeout : Nat) :
    (t.evict now timeout).1.nextId = t.nextId ∧
      ∀ source id, (t.evict now timeout).1.bySource.get? source = some id →
        t.bySource.get? source = some id := by
  simp only [evict, index_closeAll, true_and]
  intro source id hid
  rw [Table.get?_filter] at hid
  exact (Option.filter_eq_some_iff.mp hid).1

lemma step_eq_update (t : FlowTable) (now : Nat) (event : FlowEvent) :
    t.step now event = t.update event.flow (·.react now event) := by
  cases event <;> rfl

end Views

end FlowTable

namespace Flow

variable (f : Flow) (now : Nat)

lemma id_react (event : FlowEvent) : (f.react now event).1.id = f.id := by
  cases event with
  | bound id socket =>
    simp only [react, bind]
    split_ifs <;> rfl
  | bindFailed id =>
    simp only [react]
    split_ifs <;> rfl
  | sendNext id =>
    simp only [react, sendNext]
    split
    · rfl
    · split_ifs <;> rfl
    · rfl
  | received id sender payload =>
    simp only [react, receive]
    split <;> rfl
  | receiveFailed id => rfl

lemma calls_closeEffects (id : FlowId) :
    f.closeEffects.filterMap (·.sent? id) = [] ∧ f.closeEffects.filterMap (·.replied? id) = [] := by
  unfold closeEffects
  cases f.accepting <;> cases f.socket <;> exact ⟨rfl, rfl⟩

lemma calls_react_of_ne {id : FlowId} (hid : f.id ≠ id) (event : FlowEvent) :
    (f.react now event).2.filterMap (·.sent? id) = [] ∧
      (f.react now event).2.filterMap (·.replied? id) = [] := by
  cases event with
  | bound j socket =>
    simp only [react, bind]
    split_ifs <;> exact ⟨rfl, rfl⟩
  | bindFailed j =>
    simp only [react]
    split_ifs
    · exact f.calls_closeEffects id
    · exact ⟨rfl, rfl⟩
  | sendNext j =>
    simp only [react, sendNext]
    split
    · simp [FlowEffect.sent?, FlowEffect.replied?, hid]
    · split_ifs <;> exact ⟨rfl, rfl⟩
    · exact ⟨rfl, rfl⟩
  | received j sender payload =>
    simp only [react, receive]
    split
    · simp [FlowEffect.sent?, FlowEffect.replied?, hid]
    · exact ⟨rfl, rfl⟩
  | receiveFailed j => exact ⟨rfl, rfl⟩

lemma fate_react (event : FlowEvent) (hid : event.flow = f.id) :
    FlowFate now f.id (some f) (some (f.react now event).1)
      { bound := f.given event
        arrived := (FlowAction.event event).arrived f.id
        sent := (f.react now event).2.filterMap (·.sent? f.id)
        replied := (f.react now event).2.filterMap (·.replied? f.id) } := by
  cases event with
  | bound j socket =>
    simp only [react, given]
    split_ifs with hsender
    · have hcalls : (f.bind socket).2.filterMap (·.sent? f.id) = [] ∧
          (f.bind socket).2.filterMap (·.replied? f.id) = [] := by
        unfold bind
        split_ifs <;> exact ⟨rfl, rfl⟩
      rw [hcalls.1, hcalls.2]
      exact .bound f socket hsender
    · exact .spared _
  | bindFailed j =>
    simp only [react]
    split_ifs with hsender
    · obtain ⟨hsent, hreplied⟩ := f.calls_closeEffects f.id
      dsimp only
      rw [hsent, hreplied]
      exact .bindFailed f hsender
    · exact .spared _
  | sendNext j =>
    simp only [react, sendNext]
    split
    · rename_i socket payload target rest hsender hqueue
      simp only [FlowEffect.sent?, FlowEffect.replied?, List.filterMap_cons, List.filterMap_nil,
        if_pos]
      exact .sent f socket (payload, target) rest hsender hqueue
    · split_ifs
      · exact .spared _
      · exact .drained f
    · exact .spared _
  | received j sender payload =>
    obtain rfl : j = f.id := hid
    cases sender with
    | v4 sender =>
      simp only [react, receive, FlowAction.arrived, if_pos]
      cases hlistening : f.listening with
      | some socket =>
        simp only [FlowEffect.sent?, FlowEffect.replied?, List.filterMap_cons,
          List.filterMap_nil, if_pos]
        exact .answered f socket hlistening sender payload
      | none => exact .unheard _ sender payload
    | v6 sender =>
      simp only [react, receive]
      cases f.listening <;> exact .spared _
  | receiveFailed j => exact .deaf f

end Flow

lemma FlowFate.known {now : Nat} {id : FlowId} {f : Flow} {o : Option Flow} {x : FlowLog}
    (h : FlowFate now id (some f) o x) :
    ∃ f', o = some f' ∧ f'.id = f.id ∧ f'.source = f.source := by
  cases h with
  | bound socket =>
    refine ⟨_, rfl, ?_⟩
    unfold Flow.bind
    split_ifs <;> exact ⟨rfl, rfl⟩
  | _ => exact ⟨_, rfl, rfl, rfl⟩

/-- The flow of an endpoint is what it was, as far as a table goes by it. -/
abbrev Flow.Same : Option Flow → Option Flow → Prop :=
  Option.Rel fun f f' => f'.id = f.id ∧ f'.source = f.source

lemma Flow.Same.refl (o : Option Flow) : Flow.Same o o := by
  cases o with
  | none => exact .none
  | some f => exact .some ⟨rfl, rfl⟩

/-- Only a datagram that is taken opens a flow. -/
lemma FlowFate.same {now : Nat} {id : FlowId} {o o' : Option Flow} {x : FlowLog}
    (h : FlowFate now id o o' x) (htaken : x.taken = []) : Flow.Same o o' := by
  cases o with
  | some f =>
    obtain ⟨f', rfl, hends⟩ := h.known
    exact .some hends
  | none =>
    cases h with
    | spared => exact .none
    | opened => cases htaken
    | unheard => exact .none

namespace FlowTable

section Actions

variable {t : FlowTable} (now : Nat) (id : FlowId)

lemma fate_event (h : t.Sound) (event : FlowEvent) :
    FlowFate now id (t.flow? id) ((t.act now (.event event)).1.flow? id)
      (t.entry now (.event event) id) := by
  have hflow := flow?_update h (fun f => f.id_react now event) event.flow id
  have heffects := t.effects_update (·.react now event) event.flow
  rw [← step_eq_update] at hflow heffects
  simp only [act, entry, taken, given, hflow, heffects]
  by_cases hid : id = event.flow
  · subst hid
    rw [if_pos rfl, if_pos rfl]
    cases hf : t.flow? event.flow with
    | some f =>
      obtain hf := h.labelled _ f hf
      have hfate := f.fate_react now event hf.symm
      rw [hf] at hfate
      simpa using hfate
    | none =>
      cases event with
      | received j sender payload =>
        cases sender with
        | v4 sender =>
          simp only [FlowAction.arrived, FlowEvent.flow, if_pos]
          exact .unheard none sender payload
        | v6 sender => exact .spared none
      | _ => exact .spared none
  · have hne : event.flow ≠ id := fun he => hid he.symm
    have harrived : (FlowAction.event event).arrived id = [] := by
      cases event with
      | received j sender payload =>
        cases sender with
        | v4 sender => exact if_neg hne
        | v6 sender => rfl
      | _ => rfl
    have hcalls : (((t.flow? event.flow).map fun f => (f.react now event).2).getD []).filterMap
        (·.sent? id) = [] ∧ (((t.flow? event.flow).map fun f => (f.react now event).2).getD
          []).filterMap (·.replied? id) = [] := by
      cases hf : t.flow? event.flow with
      | none => exact ⟨rfl, rfl⟩
      | some f => exact f.calls_react_of_ne now (h.labelled _ f hf ▸ hne) event
    rw [if_neg hid, if_neg hne, harrived, hcalls.1, hcalls.2]
    exact .spared _

/-- A send adds to the log of the flow that takes the datagram, and to no other. -/
lemma entry_send (h : t.Sound) (d : Datagram) :
    t.entry now (.send d) id = { taken := t.taken now id (.send d) } := by
  rcases t.send_cases h d now with ⟨f, -, -, -, hs | hs⟩ | hs
  · simp only [entry, act, hs]
    rfl
  · simp only [entry, act, hs]
    rfl
  · simp only [entry, act, hs]
    rfl

lemma fate_send (h : t.Sound) (d : Datagram) :
    FlowFate now id (t.flow? id) ((t.act now (.send d)).1.flow? id)
      (t.entry now (.send d) id) := by
  rw [entry_send now id h]
  rcases t.send_cases h d now with ⟨f, hindex, hf, hsource, hs | hs⟩ | hs
  · simp only [act, taken, hs, flow?_put, Flow.id_enqueue, bySource_put, hindex,
      Option.some.injEq]
    by_cases hid : id = f.id
    · subst hid
      simp only [if_pos, hf, and_self]
      exact .taken f d hsource
    · simp only [hid, Ne.symm hid, if_false, and_false]
      exact .spared _
  · simp only [act, taken, hs, flow?_put, Flow.id_touch]
    by_cases hid : id = f.id
    · subst hid
      simp only [if_pos, hf]
      exact .refused f
    · simp only [hid, if_false]
      exact .spared _
  · have hnew := h.flow?_nextId
    simp only [act, taken, hs, flow?_put, Flow.id_enqueue, Flow.id_fresh, flow?_openFlow]
    have hindex : ((t.openFlow d.source now).1.put
        ((Flow.fresh t.nextId d.source now).enqueue d now)).bySource.get? d.source =
        some t.nextId := (t.bySource_openFlow d.source now d.source).trans (if_pos rfl)
    by_cases hid : id = t.nextId
    · subst hid
      simp only [if_pos, hindex, hnew, and_self]
      exact .opened d
    · simp only [hid, hindex, Option.some.injEq, Ne.symm hid, if_false, and_false]
      exact .spared _

lemma calls_closeAll (t : FlowTable) (fs : List Flow) :
    (t.closeAll fs).2.filterMap (·.sent? id) = [] ∧
      (t.closeAll fs).2.filterMap (·.replied? id) = [] := by
  simp only [closeAll, List.filterMap_flatMap, List.flatMap_eq_nil_iff]
  exact ⟨fun f _ => (f.calls_closeEffects id).1, fun f _ => (f.calls_closeEffects id).2⟩

lemma flow?_of_mem_filterMap (h : t.Sound) {ids : List FlowId} :
    ∀ f ∈ ids.filterMap t.flow?, t.flow? f.id = some f := by
  intro f hf
  obtain ⟨j, -, hj⟩ := List.mem_filterMap.mp hf
  rwa [h.labelled j f hj]

/-- An action that closes flows, whatever it makes of the index, closes a flow or spares it. -/
lemma fate_closeAll {fs : List Flow} (hfs : ∀ f ∈ fs, t.flow? f.id = some f)
    (index : Table Endpoint FlowId) :
    FlowFate now id (t.flow? id) ((closeAll { t with bySource := index } fs).1.flow? id)
      { sent := (closeAll { t with bySource := index } fs).2.filterMap (·.sent? id)
        replied := (closeAll { t with bySource := index } fs).2.filterMap (·.replied? id) } := by
  obtain ⟨hsent, hreplied⟩ := calls_closeAll id { t with bySource := index } fs
  rw [hsent, hreplied]
  rw [flow?_closeAll hfs]
  split
  · cases t.flow? id with
    | none => exact .spared none
    | some f => exact .closed f
  · exact .spared _

theorem fate_act (h : t.Sound) (a : FlowAction) :
    FlowFate now id (t.flow? id) ((t.act now a).1.flow? id) (t.entry now a id) := by
  cases a with
  | send d => exact fate_send now id h d
  | event event => exact fate_event now id h event
  | evict timeout => exact fate_closeAll now id (flow?_of_mem_filterMap h) _
  | clear => exact fate_closeAll now id (flow?_of_mem_filterMap h) _

end Actions

namespace Sound

variable {t t' : FlowTable}

lemma empty : Sound {} where
  labelled := by intro id f h; cases h
  old := by intro id f h; cases h
  indexed := by intro source id h; cases h

/-- Nothing but the flows that are known has changed, and none of them in what it goes by. -/
lemma of_flows (h : t.Sound) (hnext : t'.nextId = t.nextId)
    (hflows : ∀ id, Flow.Same (t.flow? id) (t'.flow? id))
    (hindex : ∀ source id, t'.bySource.get? source = some id →
      t.bySource.get? source = some id) : t'.Sound := by
  have hback : ∀ id f', t'.flow? id = some f' → ∃ f, t.flow? id = some f ∧ f'.id = f.id := by
    intro id f' hf'
    have hrel := hflows id
    rw [hf'] at hrel
    cases hf : t.flow? id with
    | none =>
      rw [hf] at hrel
      cases hrel
    | some f =>
      rw [hf] at hrel
      cases hrel with
      | some hends => exact ⟨f, rfl, hends.1⟩
  constructor
  · intro id f' hf'
    obtain ⟨f, hf, hid⟩ := hback id f' hf'
    exact hid.trans (h.labelled id f hf)
  · intro id f' hf'
    obtain ⟨f, hf, -⟩ := hback id f' hf'
    exact hnext ▸ h.old id f hf
  · intro source id hid
    obtain ⟨f, hf, hsource⟩ := h.indexed source id (hindex source id hid)
    have hrel := hflows id
    rw [hf] at hrel
    cases hf' : t'.flow? id with
    | none =>
      rw [hf'] at hrel
      cases hrel
    | some f' =>
      rw [hf'] at hrel
      cases hrel with
      | some hends => exact ⟨f', rfl, hends.2.trans hsource⟩

lemma put (h : t.Sound) {f g : Flow} (hg : t.flow? f.id = some g) (hsource : f.source = g.source) :
    (t.put f).Sound := by
  refine h.of_flows rfl (fun id => ?_) fun _ _ hid => hid
  rw [flow?_put]
  split
  · rename_i hid
    rw [hid, hg]
    exact .some ⟨(h.labelled _ g hg).symm, hsource⟩
  · exact .refl _

lemma openFlow (h : t.Sound) (source : Endpoint) (now : Nat) :
    (t.openFlow source now).1.Sound := by
  constructor
  · intro id f hf
    rw [flow?_openFlow] at hf
    split at hf
    · rename_i hid
      obtain rfl := Option.some.inj hf
      exact hid.symm
    · exact h.labelled id f hf
  · intro id f hf
    rw [flow?_openFlow] at hf
    split at hf
    · rename_i hid
      exact hid ▸ Nat.lt_succ_self _
    · exact Nat.lt_succ_of_lt (h.old id f hf)
  · intro s id hid
    rw [bySource_openFlow] at hid
    rw [flow?_openFlow]
    split at hid
    · rename_i hs
      obtain rfl := Option.some.inj hid
      exact ⟨_, if_pos rfl, hs.symm⟩
    · obtain ⟨f, hf, hsource⟩ := h.indexed s id hid
      rw [if_neg (Nat.ne_of_lt (h.old id f hf))]
      exact ⟨f, hf, hsource⟩

lemma act (h : t.Sound) (now : Nat) (a : FlowAction) : (t.act now a).1.Sound := by
  cases a with
  | send d =>
    rcases t.send_cases h d now with ⟨f, -, hf, -, hs | hs⟩ | hs
    · simp only [FlowTable.act, hs]
      exact h.put hf rfl
    · simp only [FlowTable.act, hs]
      exact h.put hf rfl
    · simp only [FlowTable.act, hs]
      exact (h.openFlow d.source now).put ((flow?_openFlow ..).trans (if_pos rfl)) rfl
  | event event =>
    have hindex := index_update t event.flow (·.react now event)
    rw [← step_eq_update] at hindex
    refine h.of_flows hindex.2 (fun id => (fate_act now id h (.event event)).same rfl) ?_
    exact fun source id hid => hindex.1 ▸ hid
  | evict timeout =>
    have hindex := index_evict t now timeout
    exact h.of_flows hindex.1 (fun id => (fate_act now id h (.evict timeout)).same rfl) hindex.2
  | clear =>
    have hindex := index_closeAll { t with bySource := .empty }
      (t.bySource.values.filterMap t.flow?)
    refine h.of_flows hindex.2 (fun id => (fate_act now id h .clear).same rfl) ?_
    intro source id hid
    have hempty : (t.act now .clear).1.bySource = .empty := hindex.1
    rw [hempty] at hid
    cases hid

lemma after (h : t.Sound) (history : List (Nat × FlowAction)) : (t.after history).Sound := by
  induction history generalizing t with
  | nil => exact h
  | cons x rest ih => exact ih (h.act x.1 x.2)

end Sound

end FlowTable

end GuestNat
