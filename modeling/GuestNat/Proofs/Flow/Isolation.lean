import GuestNat.Proofs.Flow.History

/-!
# Flows are isolated and in order

Whatever is done to a flow table, in whatever order, a flow sends through its own socket only, and
what it has sent is the beginning of what it took from its own endpoint. What it hands on to that
endpoint arrived on its own socket, and is handed on once (`flows_isolated`). The invariant
relates the log of a flow to the flow: as long as the sender has not ended, what it sent and what
waits in the queue are together what was taken.
-/
namespace GuestNat

/-- What a socket is handed of a datagram of the guest. -/
def Datagram.outgoing (d : Datagram) : Bytes × Endpoint := (d.payload, d.destination)

/-- What a socket received of a datagram for the guest. -/
def Datagram.incoming (d : Datagram) : Endpoint × Bytes := (d.source, d.payload)

/-- What is handed to a socket. -/
def FlowEffect.via? (socket : SocketId) : FlowEffect → Option (Bytes × Endpoint)
  | .sent _ s payload target => if s = socket then some (payload, target) else none
  | _ => none

namespace FlowLog

/-- What a flow of an endpoint has done, it did in order and for that endpoint only. -/
structure Isolated (log : FlowLog) (endpoint : Option Endpoint) : Prop where
  once : log.bound.length ≤ 1
  /-- It sends through its own socket. -/
  own : ∀ x ∈ log.sent, x.1 ∈ log.bound
  /-- What was sent is the beginning of what was taken. -/
  ordered : log.sent.map Prod.snd <+: log.taken.map Datagram.outgoing
  source : ∀ d ∈ log.taken, endpoint = some d.source
  /-- What is handed on has arrived, and is handed on once. -/
  heard : (log.replied.map Datagram.incoming).Sublist log.arrived
  answers : log.replied ≠ [] → log.bound ≠ []
  destination : ∀ d ∈ log.replied, endpoint = some d.destination

/-- The log of a flow agrees with the flow. -/
structure Fits (log : FlowLog) (f : Flow) : Prop extends log.Isolated (some f.source) where
  waits : f.sender = .binding → log.bound = []
  sends : ∀ socket, f.sender = .sending socket → log.bound = [socket]
  listens : ∀ socket, f.listening = some socket → log.bound = [socket]
  /-- What waits in the queue comes next. -/
  queued : f.sender ≠ .finished →
    log.sent.map Prod.snd ++ f.queue = log.taken.map Datagram.outgoing

/-- The log agrees with what is known of its flow: if there is none, it has done nothing. -/
def Tells (log : FlowLog) : Option Flow → Prop
  | some f => log.Fits f
  | none => log.taken = [] ∧ log.bound = [] ∧ log.sent = [] ∧ log.replied = []

section Steps

variable {log : FlowLog} {f : Flow} (h : log.Fits f)

include h

lemma Fits.take (now : Nat) {d : Datagram} (hsource : f.source = d.source) :
    Fits { log with taken := log.taken ++ [d] } (f.enqueue d now) where
  __ := h
  queued hsender := by
    rw [List.map_append, ← h.queued hsender, List.append_assoc]
    rfl
  ordered := by
    rw [List.map_append]
    exact h.ordered.trans (List.prefix_append ..)
  source := by
    rw [List.forall_mem_append, List.forall_mem_singleton]
    exact ⟨h.source, congrArg some hsource⟩

/-- A sender that waits has been given no socket, so this one is the first. -/
lemma Fits.bind {socket : SocketId} (hsender : f.sender = .binding) :
    Fits { log with bound := log.bound ++ [socket] } (f.bind socket).1 := by
  have hnone := h.waits hsender
  have hsent : log.sent = [] := by
    refine List.eq_nil_iff_forall_not_mem.mpr fun x hx => ?_
    have hmem := h.own x hx
    rw [hnone] at hmem
    cases hmem
  have hlistening : ∀ s, f.listening ≠ some s := by
    intro s hs
    have hbound := h.listens s hs
    rw [hnone] at hbound
    cases hbound
  unfold Flow.bind
  rw [hnone, List.nil_append]
  split_ifs
  · exact
      { h with
        waits := nofun
        sends := nofun
        listens := fun s hs => absurd hs (hlistening s)
        once := Nat.le_refl 1
        own := by simp [hsent]
        queued := fun hne => absurd rfl hne
        answers := nofun }
  · exact
      { h with
        waits := nofun
        sends := fun s hs => by rw [FlowSender.sending.inj hs]
        listens := fun s hs => by rw [Option.some.inj hs]
        once := Nat.le_refl 1
        own := by simp [hsent]
        queued := fun _ => h.queued (by simp [hsender])
        answers := nofun }

lemma Fits.send {socket : SocketId} {x : Bytes × Endpoint} {rest : List (Bytes × Endpoint)}
    (hsender : f.sender = .sending socket) (hqueue : f.queue = x :: rest) :
    Fits { log with sent := log.sent ++ [(socket, x)] } { f with queue := rest } := by
  have hnext : (log.sent ++ [(socket, x)]).map Prod.snd ++ rest =
      log.taken.map Datagram.outgoing := by
    rw [← h.queued (by simp [hsender]), hqueue, List.map_append, List.append_assoc]
    rfl
  exact
    { h with
      own := by
        rw [List.forall_mem_append, List.forall_mem_singleton]
        exact ⟨h.own, by simp [h.sends socket hsender]⟩
      queued := fun _ => hnext
      ordered := hnext ▸ List.prefix_append _ rest }

lemma Fits.answer (now : Nat) {socket : SocketId} (hlistening : f.listening = some socket)
    (sender : Endpoint) (payload : Bytes) :
    Fits { log with arrived := log.arrived ++ [(sender, payload)],
                    replied := log.replied ++ [⟨sender, f.source, payload⟩] } (f.touch now) where
  __ := h
  heard := by
    rw [List.map_append]
    exact h.heard.append (List.Sublist.refl _)
  destination := by
    rw [List.forall_mem_append, List.forall_mem_singleton]
    exact ⟨h.destination, rfl⟩
  answers _ := by simp [h.listens socket hlistening]

lemma Fits.ignore (x : Endpoint × Bytes) : Fits { log with arrived := log.arrived ++ [x] } f :=
  { h with heard := h.heard.trans (List.sublist_append_left ..) }

lemma Fits.finish (queue : List (Bytes × Endpoint)) :
    log.Fits { f with sender := .finished, queue } :=
  { h with
    waits := nofun
    sends := nofun
    queued := fun hne => absurd rfl hne }

end Steps

lemma Tells.isolated {log : FlowLog} {o : Option Flow} (h : log.Tells o) :
    log.Isolated (o.map Flow.source) := by
  cases o with
  | some f => exact h.toIsolated
  | none =>
    obtain ⟨htaken, hbound, hsent, hreplied⟩ := h
    constructor <;> simp [htaken, hbound, hsent, hreplied]

/-- A new flow has done as little as one that is not known. -/
lemma Tells.fresh {log : FlowLog} (h : log.Tells none) (id : FlowId) (source : Endpoint)
    (now : Nat) : log.Fits (Flow.fresh id source now) := by
  have hisolated := h.isolated
  obtain ⟨htaken, hbound, hsent, hreplied⟩ := h
  exact
    { hisolated with
      source := by simp [htaken]
      destination := by simp [hreplied]
      waits := fun _ => hbound
      sends := nofun
      listens := nofun
      queued := fun _ => by simp [htaken, hsent, Flow.fresh] }

lemma Tells.step {log x : FlowLog} {now : Nat} {id : FlowId} {o o' : Option Flow}
    (h : log.Tells o) (hfate : FlowFate now id o o' x) : (log ++ x).Tells o' := by
  cases hfate <;> simp only [append_eq, List.append_nil]
  case spared => exact h
  case opened d => exact (h.fresh id d.source now).take now rfl
  case taken f d hsource => exact h.take now hsource
  case refused f => exact { h with }
  case closed f => exact { h with }
  case bound f socket hsender => exact h.bind hsender
  case bindFailed f hsender => exact { h.finish [] with }
  case sent f socket y rest hsender hqueue => exact h.send hsender hqueue
  case drained f => exact h.finish f.queue
  case answered f socket hlistening sender payload => exact h.answer now hlistening sender payload
  case unheard sender payload =>
    cases o with
    | some f => exact h.ignore (sender, payload)
    | none => exact h
  case deaf f => exact { h with listens := nofun }

end FlowLog

namespace FlowTable

variable {t : FlowTable}

lemma tells_after (h : t.Sound) {id : FlowId} {log : FlowLog} (hlog : log.Tells (t.flow? id))
    (history : List (Nat × FlowAction)) :
    (log ++ t.log id history).Tells ((t.after history).flow? id) := by
  induction history generalizing t log with
  | nil =>
    rw [FlowTable.log, FlowLog.append_empty]
    exact hlog
  | cons x rest ih =>
    have hrest := ih (h.act x.1 x.2) (hlog.step (fate_act x.1 id h x.2))
    rwa [FlowLog.append_assoc] at hrest

lemma sent_log (t : FlowTable) (id : FlowId) (history : List (Nat × FlowAction)) :
    (t.log id history).sent = (t.effects history).filterMap (·.sent? id) := by
  induction history generalizing t with
  | nil => rfl
  | cons x rest ih =>
    rw [effects, List.filterMap_append, ← ih]
    rfl

/-- A flow is given no sockets but those that are bound for it. -/
lemma mem_bound_log {history : List (Nat × FlowAction)} {id : FlowId} {socket : SocketId}
    (h : socket ∈ (t.log id history).bound) : .event (.bound id socket) ∈ history.map Prod.snd := by
  induction history generalizing t with
  | nil => cases h
  | cons x rest ih =>
    rw [List.map_cons, List.mem_cons]
    rcases List.mem_append.mp h with hgiven | hrest
    · left
      obtain ⟨now, a⟩ := x
      simp only [entry, given] at hgiven
      split at hgiven
      · split_ifs at hgiven with hid
        · obtain ⟨f, -, hf⟩ := List.mem_flatMap.mp hgiven
          unfold Flow.given at hf
          split at hf
          · split_ifs at hf
            · subst hid
              rw [List.mem_singleton.mp hf]
              rfl
            · cases hf
          · cases hf
        · cases hgiven
      · cases hgiven
    · exact .inr (ih hrest)

/-- What is handed to a socket that only one flow was given is what that flow sends. -/
lemma via_eq_sent {history : List (Nat × FlowAction)} {id : FlowId} {socket : SocketId}
    (hown : ∀ j, ∀ x ∈ (t.log j history).sent, x.1 ∈ (t.log j history).bound)
    (honce : (t.log id history).bound = [socket])
    (hfresh : ∀ j, socket ∈ (t.log j history).bound → j = id) :
    (t.effects history).filterMap (·.via? socket) =
      (t.log id history).sent.map Prod.snd := by
  rw [sent_log, List.map_filterMap]
  refine List.filterMap_congr fun x hx => ?_
  cases x with
  | sent j s payload target =>
    have hmem : (s, payload, target) ∈ (t.log j history).sent := by
      rw [sent_log]
      exact List.mem_filterMap.mpr ⟨_, hx, if_pos rfl⟩
    have hs := hown j _ hmem
    simp only [FlowEffect.via?, FlowEffect.sent?]
    by_cases hid : j = id
    · subst hid
      obtain rfl : s = socket := List.mem_singleton.mp (honce ▸ hs)
      simp
    · have hne : s ≠ socket := by
        rintro rfl
        exact hid (hfresh j hs)
      simp [hid, hne]
  | _ => rfl

/-- In every history, live flows have endpoints of their own, and each flow is isolated: it sends
in order what it took from its endpoint, through one socket of its own, and hands on to its
endpoint what arrived for it. Nothing else goes through the socket, unless another flow was given
the same. -/
theorem flows_isolated (history : List (Nat × FlowAction)) :
    let t := after {} history
    let log := fun id => FlowTable.log {} id history
    (∀ id ∈ t.bySource.values, ∀ j ∈ t.bySource.values,
      (t.flow? id).map Flow.source = (t.flow? j).map Flow.source → id = j) ∧
    ∀ id, (log id).Isolated ((t.flow? id).map Flow.source) ∧
      ∀ socket ∈ (log id).bound, (∀ j, socket ∈ (log j).bound → j = id) →
        (effects {} history).filterMap (·.via? socket) <+:
          (log id).taken.map Datagram.outgoing := by
  intro t log
  have ht : t.Sound := Sound.empty.after history
  have hstart : ∀ id, ({} : FlowLog).Tells (({} : FlowTable).flow? id) :=
    fun _ => ⟨rfl, rfl, rfl, rfl⟩
  have hisolated : ∀ id, (log id).Isolated ((t.flow? id).map Flow.source) :=
    fun id => (tells_after Sound.empty (hstart id) history).isolated
  refine ⟨fun id hid j hj hsource => ?_, fun id => ⟨hisolated id, fun socket hsocket hfresh => ?_⟩⟩
  · obtain ⟨s, hs⟩ := Table.mem_values_iff.mp hid
    obtain ⟨s', hs'⟩ := Table.mem_values_iff.mp hj
    obtain ⟨f, hf, rfl⟩ := ht.indexed s id hs
    obtain ⟨g, hg, rfl⟩ := ht.indexed s' j hs'
    rw [hf, hg, Option.map_some, Option.map_some, Option.some.injEq] at hsource
    rw [hsource, hs'] at hs
    exact (Option.some.inj hs).symm
  · have honce : (log id).bound = [socket] := by
      have hlength := (hisolated id).once
      generalize (log id).bound = bound at hsocket hlength
      match bound with
      | [s] => rw [List.mem_singleton.mp hsocket]
    rw [via_eq_sent (fun j => (hisolated j).own) honce hfresh]
    exact (hisolated id).ordered

/-- Two guests send. The second datagram of the first guest waits behind the first one, and the
flow of the second guest, which an eviction closes while it waits for its socket, sends nothing. -/
theorem flows_isolated_two_guests :
    let target : Endpoint := ⟨⟨93, 184, 216, 34⟩, 53⟩
    let first : Datagram := ⟨⟨⟨10, 0, 0, 5⟩, 5000⟩, target, [1]⟩
    let second : Datagram := { first with payload := [2] }
    let other : Datagram := { first with source := ⟨⟨10, 0, 0, 6⟩, 5000⟩, payload := [3] }
    let history : List (Nat × FlowAction) :=
      [(0, .send first), (0, .send other), (1, .send second), (1, .event (.bound 0 7)),
        (2, .event (.sendNext 0)), (3, .event (.received 0 (.v4 target) [4])), (9, .evict 7),
        (9, .event (.bound 1 8)), (9, .event (.sendNext 1))]
    let log := fun id => FlowTable.log {} id history
    (log 0).taken = [first, second] ∧ (log 1).taken = [other] ∧
      (effects {} history).filterMap (·.via? 7) = [first.outgoing] ∧
      (effects {} history).filterMap (·.via? 7) <+: [first, second].map Datagram.outgoing ∧
      (log 0).replied = [⟨target, first.source, [4]⟩] ∧
      ((after {} history).flow? 0).map Flow.source = some first.source ∧
      (log 1).sent = [] := by
  intro target first second other history log
  obtain ⟨-, hflow⟩ := flows_isolated history
  have htaken : (log 0).taken = [first, second] := by decide +kernel
  have hreplied : (log 0).replied = [⟨target, first.source, [4]⟩] := by decide +kernel
  have hbound : (log 0).bound = [7] := by decide +kernel
  have hfresh : ∀ j, 7 ∈ (log j).bound → j = 0 := by
    intro j hj
    have hmem := mem_bound_log hj
    simpa [history] using hmem
  obtain ⟨hisolated, hvia⟩ := hflow 0
  have hprefix := hvia 7 (by rw [hbound]; exact List.mem_singleton_self 7) hfresh
  rw [htaken] at hprefix
  exact ⟨htaken, by decide +kernel, by decide +kernel, hprefix, hreplied,
    hisolated.destination _ (by rw [hreplied]; exact List.mem_singleton_self _),
    by decide +kernel⟩

end FlowTable

end GuestNat
