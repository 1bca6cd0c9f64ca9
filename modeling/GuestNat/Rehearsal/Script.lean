import GuestNat.Rehearsal.Reply
import GuestNat.Rehearsal.Rounds

/-!
# Scripts

The commands of a rehearsal, and what each answers at once: those to the provider,
those to a flow table on its own and those to an engine. After a command the host
settles, unless the script says otherwise.
-/
namespace GuestNat.Rehearsal

/-- A flow table on its own, with what it asks for. -/
structure FlowDesk where
  table : FlowTable := {}
  outbox : List FlowEffect := []

namespace FlowDesk

def absorb (d : FlowDesk) (table : FlowTable) (effects : List FlowEffect) : FlowDesk :=
  ⟨table, d.outbox ++ effects⟩

end FlowDesk

instance : Subject FlowDesk where
  flows d := d.table
  react d w
    | .flow event =>
      let (table, effects) := d.table.step w.now event
      d.absorb table effects
    | _ => d
  sweep d _ _ := (d, ⟨0, 0, 0⟩)
  flush d := ({ d with outbox := [] }, d.outbox.map .flow)

instance : Subject Engine where
  flows e := e.flows
  react e w event := e.step w event
  sweep e w now := e.sweep w now
  flush e := e.flush

inductive ProviderCommand where
  /-- Sets how connections are answered, to one destination or to all others. -/
  | connectMode (mode : Mode) (destination : Option Endpoint)
  | bindMode (mode : Mode)
  | failSend (on : Bool)
  | release (name : CallName) (ok : Bool)
  | arrive (name : CallName) (arrival : Arrival)

namespace Host

variable {σ : Type} [Subject σ]

def obey (h : Host σ) : ProviderCommand → Host σ × Reply
  | .connectMode mode none => (h.provide fun p => { p with connectMode := mode }, .ok)
  | .connectMode mode (some destination) =>
    (h.provide fun p => { p with connectModes := p.connectModes.insert destination mode }, .ok)
  | .bindMode mode => (h.provide fun p => { p with bindMode := mode }, .ok)
  | .failSend on => (h.provide fun p => { p with failSend := on }, .ok)
  | .release name ok =>
    let (provider, task) := h.provider.release name ok
    match task with
    | some task => ({ h with provider }.wake task, .flag true)
    | none => (h, .flag false)
  | .arrive (.bind socket) arrival =>
    match h.provider.arrive socket arrival with
    | some provider => ({ h with provider }.wakeReceiver socket, .ok)
    | none => (h, .noSocket)
  | .arrive (.connect _) _ => (h, .noSocket)

end Host

inductive FlowCommand where
  | provider (command : ProviderCommand)
  | send (datagram : Datagram)
  | evict (timeout : Nat)
  | clear
  | contains (source : Endpoint)
  | settle

def Host.obeyFlow (h : Host FlowDesk) : FlowCommand → Host FlowDesk × Reply
  | .provider command => h.obey command
  | .send d =>
    let (table, queued, effects) := h.subject.table.send d h.world.now
    (h.change (·.absorb table effects), .flag queued)
  | .evict timeout =>
    let (table, n, effects) := h.subject.table.evict h.world.now timeout
    (h.change (·.absorb table effects), .number n)
  | .clear =>
    let (table, n, effects) := h.subject.table.clear
    (h.change (·.absorb table effects), .number n)
  | .contains source => (h, .flag (h.subject.table.contains source))
  | .settle => (h, .ok)

inductive EngineCommand where
  | provider (command : ProviderCommand)
  | input (bytes : Bytes)
  | advance (time : Nat)
  /-- Sweeps at a time ahead of the clock. -/
  | sweep (ahead : Nat)
  | start
  | stop
  /-- Sets whether the interface takes frames. -/
  | accept (on : Bool)
  /-- Sets whether the forwarder, if there is one, takes messages. -/
  | forward (on : Bool)
  | reserve (ports : List UInt16)
  | acceptClient (peer : SocketAddress)
  | closeLink (key : LinkKey)
  | settle

def Host.obeyEngine (h : Host Engine) : EngineCommand → Host Engine × Reply
  | .provider command => h.obey command
  | .input bytes => (h.react (.input bytes), .silent)
  | .advance time => ({ h with world := { h.world with now := h.world.now + time } }, .silent)
  | .sweep ahead =>
    let (e, report) := h.subject.sweep h.world (h.world.now + ahead)
    (h.change fun _ => e, .report report)
  | .start =>
    let (e, result) := h.subject.start h.world
    let h := h.change fun _ => e
    match result with
    | .ok () => (h.wake (.ticker h.run), .outcome result)
    | .error _ => (h, .outcome result)
  | .stop =>
    let (e, result) := h.subject.stop h.world
    match result with
    | .ok () =>
      let h := h.wake (.ticker h.run)
      ({ h with run := h.run + 1, due := none }.change fun _ => e, .outcome result)
    | .error _ => (h, .outcome result)
  | .accept on => ({ h with world := { h.world with accepts := on } }, .silent)
  | .forward on =>
    ({ h with world := { h.world with forwards := h.world.forwards.map fun _ => on } }, .silent)
  | .reserve ports => ({ h with world := { h.world with reserved := ports } }, .silent)
  | .acceptClient peer => (h, .link ((h.subject.acceptClient peer).map (·.id)))
  | .closeLink key =>
    match h.subject.links.closeTuple? key with
    | some (links, l) => (h.change fun e => { e with links }.hangUp [l], .link (some l.id))
    | none => (h, .link none)
  | .settle => (h, .silent)

/-- Obeys a command a number of times, and settles if asked to. The last answer counts. -/
def Host.perform {σ : Type} [Subject σ] (h : Host σ) (obey : Host σ → Host σ × Reply)
    (times : Nat) (settled : Bool) : Host σ × Reply :=
  let (h, reply) := (List.range times).foldl (fun (h, _) _ => obey h) (h, .silent)
  (if settled then h.settle else h, reply)

end GuestNat.Rehearsal
