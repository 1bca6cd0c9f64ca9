import GuestNat.Proofs.Engine.Links

/-!
# Which connections are being opened

A request that opens a new link adds it to those for which a connection is being opened, and
the completion of the connection takes it off. Nothing else does either: sweeps, a stop and
closing a link leave the connections alone that are on their way (`dialing_step`). What a
completion comes to depends on whether its link is closed.
-/
namespace GuestNat

/-- Whether an event is the end of opening the connection of a link. -/
def Event.Completes (id : LinkId) : Event → Prop
  | .connected j _ => j = id
  | .dialFailed j => j = id
  | _ => False

namespace Engine

section Views

variable (e : Engine) (w : Surroundings)

@[simp] theorem dialing_count (f : Counters → Counters) : (e.count f).dialing = e.dialing := rfl

@[simp] theorem dialing_emit (x : Effect) : (e.emit x).dialing = e.dialing := rfl

@[simp] theorem dialing_modifyLink (id : LinkId) (f : Link → Link) :
    (e.modifyLink id f).dialing = e.dialing := rfl

@[simp] theorem dialing_hangUp (ls : List Link) : (e.hangUp ls).dialing = e.dialing := rfl

@[simp] theorem dialing_noteRouting (answers : List RoutingAnswer) :
    (e.noteRouting answers).dialing = e.dialing := rfl

@[simp] theorem dialing_write (cause : FrameCause) (f : Frame) :
    (e.write w cause f).dialing = e.dialing := by
  unfold write
  split <;> rfl

@[simp] theorem dialing_sendReset (s : Segment) : (e.sendReset w s).dialing = e.dialing := by
  unfold sendReset
  split
  · rfl
  · dsimp only
    split <;> simp

@[simp] theorem dialing_absorb (effects : List FlowEffect) :
    (e.absorb w effects).dialing = e.dialing := by
  exact absorb_induction (P := fun d => d.dialing = e.dialing) e effects rfl
    (fun _ _ h => (dialing_write ..).trans h) fun _ _ h => h

@[simp] theorem dialing_closeLink (id : LinkId) : (e.closeLink id).1.dialing = e.dialing := by
  unfold closeLink
  split <;> rfl

@[simp] theorem dialing_dropFinished (key : LinkKey) :
    (e.dropFinished key).dialing = e.dialing := by
  exact dropFinished_induction (P := fun d => d.dialing = e.dialing) e key rfl
    fun l _ => e.dialing_closeLink l.id

@[simp] theorem dialing_repeatSyn (l : Link) (s : Segment) :
    (e.repeatSyn w l s).dialing = e.dialing := by
  unfold repeatSyn
  dsimp only
  split <;> simp

@[simp] theorem dialing_processReply (s : Segment) :
    (e.processReply w s).dialing = e.dialing := by
  unfold processReply
  split <;> simp

@[simp] theorem dialing_processForward (s : Segment) :
    (e.processForward w s).dialing = e.dialing := by
  unfold processForward
  split
  · simp
  · dsimp only
    split_ifs <;> simp

lemma Dispatches.dialing {w : Surroundings} {e e' : Engine} (h : Dispatches w e e') :
    e'.dialing = e.dialing := by
  induction h with
  | sent => exact dialing_absorb ..
  | trans _ _ ih ih' => exact ih'.trans ih
  | _ => rfl

@[simp] theorem dialing_sweepLink (now : Nat) (id : LinkId) :
    (e.sweepLink now id).1.dialing = e.dialing := by
  exact sweepLink_induction (P := fun d => d.dialing = e.dialing) e id rfl (fun _ _ _ => rfl)
    fun d h => (d.dialing_closeLink id).trans h

@[simp] theorem dialing_sweepLinks (now : Nat) (order : List LinkId) :
    (e.sweepLinks now order).1.dialing = e.dialing := by
  exact sweepLinks_induction (P := fun d => d.dialing = e.dialing) e order rfl
    fun d id h => (d.dialing_sweepLink now id).trans h

end Views

/-- What an event may do to the connections that are being opened: those that it does not
complete stay, and only the next link comes, which is known from then on. -/
structure Dials (e e' : Engine) (event : Event) : Prop where
  stays : ∀ id ∈ e.dialing, ¬event.Completes id → id ∈ e'.dialing
  comes : ∀ id ∈ e'.dialing,
    id ∈ e.dialing ∨ (id = e.links.nextId ∧ (e'.links.link? id).isSome = true)
  once : e.links.nextId ∉ e.dialing → e.dialing.Nodup → e'.dialing.Nodup
  done : ∀ id, event.Completes id → e'.dialing = e.dialing.erase id

namespace Dials

variable {e e' : Engine} {event : Event}

lemma of_eq (h : e'.dialing = e.dialing) (hevent : ∀ id, ¬event.Completes id) :
    Dials e e' event where
  stays _ hid _ := h ▸ hid
  comes _ hid := .inl (h ▸ hid)
  once _ hd := h ▸ hd
  done id hc := absurd hc (hevent id)

lemma of_erase {id : LinkId} (h : e'.dialing = e.dialing.erase id)
    (hevent : ∀ j, event.Completes j ↔ j = id) : Dials e e' event where
  stays j hj hc := by
    rw [h]
    exact (List.mem_erase_of_ne fun he => hc ((hevent j).mpr he)).mpr hj
  comes j hj := .inl (List.mem_of_mem_erase (h ▸ hj))
  once _ hd := h ▸ hd.erase id
  done j hc := (hevent j).mp hc ▸ h

lemma of_next (h : e'.dialing = e.dialing ++ [e.links.nextId])
    (hknown : (e'.links.link? e.links.nextId).isSome = true)
    (hevent : ∀ id, ¬event.Completes id) : Dials e e' event where
  stays _ hid _ := h ▸ List.mem_append_left _ hid
  comes id hid := by
    rw [h, List.mem_append, List.mem_singleton] at hid
    refine hid.imp_right ?_
    rintro rfl
    exact ⟨rfl, hknown⟩
  once hnew hd := by
    rw [h, List.nodup_append]
    refine ⟨hd, List.pairwise_singleton _ _, ?_⟩
    intro j hj k hk
    rintro rfl
    exact hnew (List.mem_singleton.mp hk ▸ hj)
  done id hc := absurd hc (hevent id)

end Dials

section Steps

variable (e : Engine) (w : Surroundings)

lemma dropFinished_links (key : LinkKey) :
    (e.dropFinished key).links = e.links ∨
      ∃ l, (e.dropFinished key).links = e.links.drop l := by
  refine dropFinished_induction
    (P := fun d => d.links = e.links ∨ ∃ l, d.links = e.links.drop l) e key (.inl rfl) fun m _ => ?_
  rcases e.closeLink_cases m.id with hsame | ⟨l, -, -, hclosed⟩
  · exact .inl (congrArg links hsame)
  · exact .inr ⟨l, congrArg links hclosed⟩

lemma nextId_dropFinished (key : LinkKey) :
    (e.dropFinished key).links.nextId = e.links.nextId := by
  rcases e.dropFinished_links key with h | ⟨l, h⟩
  · rw [h]
  · rw [h]
    rfl

lemma ports_dropFinished (key : LinkKey) :
    (e.dropFinished key).links.ports = e.links.ports := by
  rcases e.dropFinished_links key with h | ⟨l, h⟩
  · rw [h]
  · rw [h]
    rfl

lemma link?_dropFinished_eq_none (key : LinkKey) {id : LinkId} (h : e.links.link? id = none) :
    (e.dropFinished key).links.link? id = none := by
  rcases e.dropFinished_links key with hlinks | ⟨l, hlinks⟩
  · rwa [hlinks]
  · rw [hlinks, LinkTable.link?_drop, h, Option.map_none, ite_self]

lemma dialing_processSyn (s : Segment) :
    (e.processSyn w s).dialing = e.dialing ∨
      (e.processSyn w s).dialing = e.dialing ++ [e.links.nextId] ∧
        ((e.processSyn w s).links.link? e.links.nextId).isSome = true := by
  have hdialing := e.dialing_dropFinished (s.source, s.destination)
  have hnext := e.nextId_dropFinished (s.source, s.destination)
  have ho := e.requestOutcome_processSyn w s
  generalize e.dropFinished (s.source, s.destination) = d, e.processSyn w s = e'
    at hdialing hnext ho ⊢
  rw [← hdialing, ← hnext]
  cases ho with
  | repeated => exact .inl (by simp)
  | unknown => exact .inl rfl
  | refused => exact .inl (dialing_sendReset ..)
  | @opened port ports =>
    have hlink := LinkTable.link?_create (t := { d.links with ports }) (s.source, s.destination)
      port w.now d.links.nextId
    refine .inr ⟨rfl, ?_⟩
    change (LinkTable.link? (LinkTable.modify _ d.links.nextId _) d.links.nextId).isSome = true
    rw [LinkTable.link?_modify, if_pos rfl, Option.isSome_map]
    exact congrArg Option.isSome (hlink.trans (if_pos rfl))

/-- Octets from the virtual interface dial for the next link at most. -/
lemma dialing_input (bytes : Bytes) :
    (e.input w bytes).dialing = e.dialing ∨
      (e.input w bytes).dialing = e.dialing ++ [e.links.nextId] ∧
        ((e.input w bytes).links.link? e.links.nextId).isSome = true := by
  obtain ⟨f, ⟨s, heq⟩ | h⟩ := e.input_cases w bytes
  · rw [heq]
    unfold processTcp
    split_ifs
    · exact .inl (dialing_processReply ..)
    · exact .inl rfl
    · exact dialing_processSyn ..
    · exact .inl (dialing_processForward ..)
  · exact .inl h.dialing

lemma dialing_connected (id : LinkId) (socket : SocketId) :
    (e.connected w id socket).dialing = e.dialing.erase id := by
  unfold connected
  split
  · rename_i hid
    exact (List.erase_of_not_mem hid).symm
  · dsimp only
    split
    · rfl
    · split <;> simp

lemma dialing_dialFailed (id : LinkId) :
    (e.dialFailed w id).dialing = e.dialing.erase id := by
  unfold dialFailed
  split
  · rename_i hid
    exact (List.erase_of_not_mem hid).symm
  · dsimp only
    split
    · rfl
    · split <;> simp

/-- What any event does to the connections that are being opened. -/
theorem dialing_step (event : Event) : Dials e (e.step w event) event := by
  cases event with
  | input bytes =>
    rcases e.dialing_input w bytes with h | ⟨h, hknown⟩
    · exact .of_eq h fun _ => id
    · exact .of_next h hknown fun _ => id
  | connected id socket => exact .of_erase (e.dialing_connected w id socket) fun _ => eq_comm
  | dialFailed id => exact .of_erase (e.dialing_dialFailed w id) fun _ => eq_comm
  | flow event => exact .of_eq (dialing_absorb ..) fun _ => id
  | carried => exact .of_eq rfl fun _ => id
  | sweep =>
    refine .of_eq ?_ fun _ => id
    exact (dialing_absorb ..).trans (dialing_sweepLinks ..)
  | start =>
    refine .of_eq ?_ fun _ => id
    simp only [step, start]
    split
    · rfl
    · split <;> rfl
  | stop =>
    refine .of_eq ?_ fun _ => id
    simp only [step, stop]
    split
    · rfl
    · exact dialing_absorb ..

end Steps

section Completions

variable {e : Engine} {w : Surroundings} {l : Link} {socket : SocketId}

/-- The engine with an opened connection attached to its link. -/
def attach (e : Engine) (l : Link) (socket : SocketId) : Engine :=
  ({ e with dialing := e.dialing.erase l.id } : Engine).modifyLink l.id
    fun _ => { l with socket := some socket, pending := none }

/-- The engine without a link whose connection could not be opened. -/
def giveUp (e : Engine) (l : Link) : Engine :=
  ((({ e with dialing := e.dialing.erase l.id } : Engine).modifyLink l.id
    fun l => { l with pending := none }).closeLink l.id).1

lemma connected_of_notMem {id : LinkId} (hid : id ∉ e.dialing) :
    e.connected w id socket = e := by
  unfold connected
  rw [if_pos hid]

lemma dialFailed_of_notMem {id : LinkId} (hid : id ∉ e.dialing) : e.dialFailed w id = e := by
  unfold dialFailed
  rw [if_pos hid]

lemma connected_of_closed (hid : l.id ∈ e.dialing) (hl : e.links.link? l.id = some l)
    (hclosed : l.closed = true) :
    e.connected w l.id socket =
      ({ e with dialing := e.dialing.erase l.id } : Engine).emit (.hangUp socket) := by
  simp only [connected, hid, not_true_eq_false, if_false, hl, Link.attach?, hclosed, if_true,
    Option.bind_eq_bind, Option.bind_some, Option.map_none]

lemma connected_of_open (hid : l.id ∈ e.dialing) (hl : e.links.link? l.id = some l)
    (hopen : l.closed = false) :
    e.connected w l.id socket =
      l.pending.elim (e.attach l socket)
        fun syn => (e.attach l socket).write w .translated syn.toFrame := by
  have hattach : l.attach? socket = some { l with socket := some socket } :=
    if_neg (Bool.eq_false_iff.mp hopen)
  simp only [connected, hid, not_true_eq_false, if_false, hl, hattach, Option.bind_eq_bind,
    Option.bind_some, Option.map_some]
  cases l.pending <;> rfl

lemma dialFailed_eq (hid : l.id ∈ e.dialing) (hl : e.links.link? l.id = some l) :
    e.dialFailed w l.id =
      l.pending.elim (e.giveUp l) fun syn =>
        (e.giveUp l).sendReset w { syn with source := l.source, destination := l.destination } := by
  simp only [dialFailed, hid, not_true_eq_false, if_false, hl]
  cases l.pending <;> rfl

end Completions

end Engine

end GuestNat
