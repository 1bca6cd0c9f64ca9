import GuestNat.Rehearsal.Agenda
import GuestNat.Rehearsal.Provider

/-!
# A deterministic host

The host has one thread for the tasks of its subject, and an agenda of those that can
run. Time moves only between steps. The subject is an engine or a flow table on its
own; the host takes what it asks for from its outbox.
-/
namespace GuestNat.Rehearsal

/-- What a host can run. -/
class Subject (σ : Type) where
  flows : σ → FlowTable
  react : σ → Surroundings → Event → σ
  sweep : σ → Surroundings → Nat → σ × SweepReport
  flush : σ → σ × List Effect

structure Host (σ : Type) where
  subject : σ
  world : Surroundings := {}
  provider : Provider := {}
  agenda : Agenda Task := {}
  period : Nat := 0
  /-- How often a ticker was stopped, which tells those apart that have ended. -/
  run : Nat := 0
  /-- When the next sweep is due, once the ticker has begun. -/
  due : Option Nat := none
  journal : Journal := {}

namespace Host

variable {σ : Type} [Subject σ]

def wake (h : Host σ) (t : Task) : Host σ := { h with agenda := h.agenda.wake t }

def note (h : Host σ) (n : Note) : Host σ :=
  { h with journal := { h.journal with notes := h.journal.notes ++ [n] } }

def provide (h : Host σ) (f : Provider → Provider) : Host σ :=
  { h with provider := f h.provider }

/-- Closes a socket. Only the first time counts. -/
def closeSocket (h : Host σ) (name : CallName) : Host σ :=
  if name ∈ h.provider.closed then h
  else
    { h.provide fun p => { p with closed := name :: p.closed } with
      journal := { h.journal with closed := h.journal.closed ++ [name] } }

def flow? (h : Host σ) (id : FlowId) : Option Flow := (Subject.flows h.subject).flow? id

/-- Wakes the sender of a flow, if it waits for its queue. -/
def wakeSender (h : Host σ) (id : FlowId) : Host σ :=
  match (h.flow? id).map Flow.sender with
  | some (.sending _) => h.wake (.sender id)
  | _ => h

/-- Wakes the flow that reads a socket. -/
def wakeReceiver (h : Host σ) (socket : SocketId) : Host σ :=
  match (Subject.flows h.subject).flows.values.find? (·.listening = some socket) with
  | some f => h.wake (.receiver f.id)
  | none => h

def sendOn (h : Host σ) (socket : SocketId) (payload : Bytes) (target : Endpoint) : Host σ :=
  let name := CallName.bind socket
  if name ∈ h.provider.closed then h
  else if h.provider.failSend then h.note (.sendFailed name target)
  else h.note (.send name target payload)

def serveFlow (h : Host σ) : FlowEffect → Host σ
  | .opened id => h.wake (.sender id)
  | .queued id _ _ => h.wakeSender id
  | .retired id => h.wakeSender id
  | .listening id _ => h.wake (.receiver id)
  | .sent _ socket payload target => h.sendOn socket payload target
  | .replied _ d => h.note (.reply d)
  | .hungUp socket => (h.closeSocket (.bind socket)).wakeReceiver socket

def serve (h : Host σ) : Effect → Host σ
  | .frame _ bytes => { h with journal := { h.journal with frames := h.journal.frames ++ [bytes] } }
  | .icmp m => h.note (.icmp m)
  | .portQuery => { h with journal := { h.journal with portQueries := h.journal.portQueries + 1 } }
  | .dial link destination => h.wake (.dial link destination)
  | .hangUp socket => h.closeSocket (.connect socket)
  | .routed a => { h with journal := { h.journal with routing := h.journal.routing ++ [a] } }
  | .flow effect => h.serveFlow effect

/-- Does all that the subject asks for. -/
def collect (h : Host σ) : Host σ :=
  let (subject, effects) := Subject.flush h.subject
  effects.foldl serve { h with subject }

/-- Changes the subject and does what it asks for. -/
def change (h : Host σ) (f : σ → σ) : Host σ := { h with subject := f h.subject }.collect

def react (h : Host σ) (e : Event) : Host σ := h.change (Subject.react · h.world e)

/-- Hands out the journal and begins a new one. -/
def takeJournal (h : Host σ) : Host σ × Journal := ({ h with journal := {} }, h.journal)

end Host

end GuestNat.Rehearsal
