import Mathlib.Data.List.Nodup
import GuestNat.Proofs.Engine.Events

/-!
# What becomes of the sockets of links

A connection that completes brings a socket, which a link holds until the engine closes it.
The sockets that links hold and those that were closed are therefore, in some order, the
sockets that were brought (`sockets_run`): an event moves sockets from the one list to the
other, and only a completion adds one. If every connection brings a socket of its own, none is
lost and none is closed twice (`socket_held_or_closed`).
-/
namespace GuestNat

/-- The socket of a link that an effect closes. -/
def Effect.hangUp? : Effect → Option SocketId
  | .hangUp socket => some socket
  | _ => none

lemma Effect.hangUp?_eq_some_iff {x : Effect} {socket : SocketId} :
    x.hangUp? = some socket ↔ x = .hangUp socket := by
  cases x <;> simp [hangUp?]

namespace LinkTable

/-- The sockets that links hold. -/
def sockets (t : LinkTable) : List SocketId := t.links.values.filterMap (·.socket)

variable {t : LinkTable} {id : LinkId} {l : Link}

lemma mem_sockets_iff {socket : SocketId} :
    socket ∈ t.sockets ↔ ∃ id l, t.link? id = some l ∧ l.socket = some socket := by
  simp only [sockets, List.mem_filterMap, Table.mem_values_iff]
  constructor
  · rintro ⟨l, ⟨id, hl⟩, hsocket⟩
    exact ⟨id, l, hl, hsocket⟩
  · rintro ⟨id, l, hl, hsocket⟩
    exact ⟨l, ⟨id, hl⟩, hsocket⟩

lemma sockets_perm (hl : t.link? id = some l) :
    t.sockets.Perm (l.socket.toList ++ (t.links.erase id).values.filterMap (·.socket)) := by
  have h := (Table.values_perm hl).filterMap (·.socket)
  rw [List.filterMap_cons] at h
  cases hsocket : l.socket with
  | none =>
    simp only [hsocket] at h
    exact h
  | some socket =>
    simp only [hsocket] at h
    exact h

/-- No two links hold a socket that is held once. -/
lemma eq_of_socket_eq (hsockets : t.sockets.Nodup) {socket : SocketId} {j : LinkId} {m : Link}
    (hl : t.link? id = some l) (hm : t.link? j = some m) (hls : l.socket = some socket)
    (hms : m.socket = some socket) : j = id := by
  by_contra hne
  have hother : socket ∈ (t.links.erase id).values.filterMap (·.socket) := by
    refine List.mem_filterMap.mpr ⟨m, Table.mem_values_iff.mpr ⟨j, ?_⟩, hms⟩
    rw [Table.get?_erase, if_neg hne]
    exact hm
  have hsplit := (sockets_perm hl).nodup hsockets
  rw [hls] at hsplit
  exact (List.nodup_cons.mp hsplit).1 hother

lemma sockets_modify (hl : t.link? id = some l) (f : Link → Link) :
    ((t.modify id f).sockets ++ l.socket.toList).Perm (t.sockets ++ (f l).socket.toList) := by
  have hl' : (t.modify id f).link? id = some (f l) := by
    rw [link?_modify, if_pos rfl, hl]
    rfl
  have hafter := sockets_perm hl'
  have hothers : (t.modify id f).links.erase id = t.links.erase id := Table.erase_modify ..
  rw [hothers] at hafter
  refine List.perm_iff_count.mpr fun socket => ?_
  have hcount := (sockets_perm hl).count_eq socket
  have hcount' := hafter.count_eq socket
  simp only [List.count_append] at hcount hcount' ⊢
  omega

lemma sockets_modify_eq {f : Link → Link} (hf : ∀ l, (f l).socket = l.socket) :
    (t.modify id f).sockets = t.sockets := by
  simp only [sockets, modify, Table.values, Table.modify, List.map_map, List.filterMap_map]
  congr 1
  funext x
  simp only [Function.comp]
  split
  · exact hf x.2
  · rfl

lemma sockets_dispose (t : LinkTable) (id : LinkId) :
    ((t.modify id Link.dispose).sockets ++ ((t.link? id).bind (·.socket)).toList).Perm
      t.sockets := by
  cases hl : t.link? id with
  | none =>
    have hsame : t.modify id Link.dispose = t.modify id fun l => l := by
      simp only [modify]
      rw [Table.modify_congr]
      intro l hl'
      cases hl.symm.trans hl'
    rw [hsame, sockets_modify_eq fun _ => rfl]
    exact (List.append_nil _).symm ▸ .refl _
  | some l => exact List.append_nil t.sockets ▸ sockets_modify hl Link.dispose

lemma sockets_create (hnew : t.link? t.nextId = none) (key : LinkKey) (port : UInt16)
    (now : Nat) : (t.create key port now).sockets = t.sockets := by
  have hvalues := Table.values_insert t.links hnew (t.fresh key port now)
  change (t.links.insert t.nextId (t.fresh key port now)).values.filterMap (·.socket) = _
  rw [hvalues, List.filterMap_append]
  exact List.append_nil _

lemma sockets_foldl_dispose {ids : List LinkId} (hids : ids.Nodup) (t : LinkTable) :
    ((ids.foldl (fun t id => t.modify id Link.dispose) t).sockets ++
      (ids.filterMap t.link?).filterMap (·.socket)).Perm t.sockets := by
  induction ids generalizing t with
  | nil => exact (List.append_nil _).symm ▸ .refl _
  | cons id rest ih =>
    obtain ⟨hid, hrest⟩ := List.nodup_cons.mp hids
    have hothers : rest.filterMap (t.modify id Link.dispose).link? = rest.filterMap t.link? := by
      refine List.filterMap_congr fun j hj => ?_
      rw [link?_modify, if_neg]
      rintro rfl
      exact hid hj
    have hhead : ((id :: rest).filterMap t.link?).filterMap (·.socket) =
        ((t.link? id).bind (·.socket)).toList ++ (rest.filterMap t.link?).filterMap (·.socket) := by
      cases hl : t.link? id with
      | none => simp [hl]
      | some l => cases hsocket : l.socket <;> simp [hl, hsocket]
    refine List.perm_iff_count.mpr fun socket => ?_
    have hcount := (ih hrest (t.modify id Link.dispose)).count_eq socket
    have hfirst := (t.sockets_dispose id).count_eq socket
    rw [hothers] at hcount
    rw [hhead]
    simp only [List.foldl_cons, List.count_append] at hcount hfirst ⊢
    omega

lemma sockets_clear (hlive : t.live.Nodup) :
    (t.clear.1.sockets ++ t.clear.2.filterMap (·.socket)).Perm t.sockets := by
  have hlinks : t.clear.1.links =
      (t.live.foldl (fun t id => t.modify id Link.dispose) t).links :=
    List.foldl_hom LinkTable.links fun _ _ => rfl
  have h := sockets_foldl_dispose hlive t
  rw [sockets, ← hlinks] at h
  exact h

end LinkTable

namespace Engine

/-- The sockets of links that were closed, oldest first. -/
def hungUp (e : Engine) : List SocketId := e.outbox.filterMap Effect.hangUp?

/-- The sockets that links hold, and those that were closed. -/
def sockets (e : Engine) : List SocketId := e.links.sockets ++ e.hungUp

/-- The sockets that an event brings: that of a connection that was being opened. -/
def obtains (e : Engine) : Event → List SocketId
  | .connected id socket => if id ∈ e.dialing then [socket] else []
  | _ => []

def obtained (e : Engine) : List (Surroundings × Event) → List SocketId
  | [] => []
  | (w, event) :: rest => e.obtains event ++ (e.step w event).obtained rest

/-- How often a socket was closed. -/
lemma count_hungUp (e : Engine) (socket : SocketId) :
    e.hungUp.count socket = e.outbox.count (.hangUp socket) := by
  rw [hungUp, List.count_filterMap, List.count]
  refine List.countP_congr fun x _ => ?_
  simp only [beq_iff_eq, Effect.hangUp?_eq_some_iff]

section Views

variable (e : Engine) (w : Surroundings)

@[simp] theorem sockets_count (f : Counters → Counters) : (e.count f).sockets = e.sockets := rfl

lemma sockets_modifyLink (id : LinkId) {f : Link → Link} (hf : ∀ l, (f l).socket = l.socket) :
    (e.modifyLink id f).sockets = e.sockets := by
  rw [sockets, modifyLink, LinkTable.sockets_modify_eq hf]
  rfl

lemma sockets_append {e' : Engine} {effects : List Effect} (hlinks : e'.links = e.links)
    (houtbox : e'.outbox = e.outbox ++ effects) (heffects : ∀ x ∈ effects, x.hangUp? = none) :
    e'.sockets = e.sockets := by
  rw [sockets, hungUp, hlinks, houtbox, List.filterMap_append,
    List.filterMap_eq_nil_iff.mpr heffects, List.append_nil]
  rfl

lemma sockets_emit {x : Effect} (hx : x.hangUp? = none) : (e.emit x).sockets = e.sockets :=
  e.sockets_append rfl rfl (by simpa using hx)

@[simp] theorem sockets_write (cause : FrameCause) (f : Frame) :
    (e.write w cause f).sockets = e.sockets := by
  unfold write
  split
  · exact e.sockets_emit rfl
  · rfl

@[simp] theorem sockets_sendReset (s : Segment) : (e.sendReset w s).sockets = e.sockets := by
  unfold sendReset
  split
  · rfl
  · dsimp only
    split <;> simp

@[simp] theorem sockets_noteRouting (answers : List RoutingAnswer) :
    (e.noteRouting answers).sockets = e.sockets :=
  e.sockets_append rfl rfl (by simp [Effect.hangUp?])

@[simp] theorem sockets_absorb (effects : List FlowEffect) :
    (e.absorb w effects).sockets = e.sockets := by
  exact absorb_induction (P := fun d => d.sockets = e.sockets) e effects rfl
    (fun _ _ h => (sockets_write ..).trans h) fun d _ h => (d.sockets_emit rfl).trans h

@[simp] theorem sockets_hangUp (ls : List Link) :
    (e.hangUp ls).sockets = e.sockets ++ ls.filterMap (·.socket) := by
  have hclosed : ((ls.filterMap (·.socket)).map Effect.hangUp).filterMap Effect.hangUp? =
      ls.filterMap (·.socket) := by
    rw [List.filterMap_map]
    exact List.filterMap_some ..
  rw [sockets, hungUp, hangUp, List.filterMap_append, hclosed, ← List.append_assoc]
  rfl

end Views

section Steps

variable (e : Engine) (w : Surroundings)

lemma sockets_release {id : LinkId} {l : Link} (hl : e.links.link? id = some l) {f : Link → Link}
    (hf : (f l).socket = none) : ((e.modifyLink id f).hangUp [l]).sockets.Perm e.sockets := by
  refine List.perm_iff_count.mpr fun socket => ?_
  have hcount := (LinkTable.sockets_modify hl f).count_eq socket
  have hself : [l].filterMap (·.socket) = l.socket.toList := by
    cases hsocket : l.socket <;> simp [hsocket]
  rw [hf] at hcount
  rw [sockets_hangUp, hself]
  simp only [sockets, hungUp, modifyLink, List.count_append, Option.toList_none,
    List.count_nil] at hcount ⊢
  omega

lemma sockets_closeLink (hlab : e.links.Labelled) (id : LinkId) :
    (e.closeLink id).1.sockets.Perm e.sockets := by
  rcases e.closeLink_cases id with hsame | ⟨l, hl, -, hclosed⟩
  · rw [hsame]
  · obtain rfl := hlab id l hl
    rw [hclosed]
    exact e.sockets_release (f := Link.dispose) hl rfl

lemma sockets_dropFinished (hlab : e.links.Labelled) (key : LinkKey) :
    (e.dropFinished key).sockets.Perm e.sockets := by
  exact dropFinished_induction (P := fun d => d.sockets.Perm e.sockets) e key (.refl _)
    fun l _ => e.sockets_closeLink hlab l.id

@[simp] theorem sockets_repeatSyn (l : Link) (s : Segment) :
    (e.repeatSyn w l s).sockets = e.sockets := by
  have hobserve := e.sockets_modifyLink l.id (f := (·.observe .guest s)) fun _ => rfl
  unfold repeatSyn
  dsimp only
  split
  · rw [sockets_write, hobserve]
  · refine Eq.trans ?_ hobserve
    exact sockets_modifyLink _ l.id fun _ => rfl

@[simp] theorem sockets_openLink (l : Link) (s : Segment) :
    (e.openLink l s).sockets = e.sockets :=
  (sockets_emit _ rfl).trans (e.sockets_modifyLink l.id fun _ => rfl)

@[simp] theorem sockets_processReply (s : Segment) :
    (e.processReply w s).sockets = e.sockets := by
  unfold processReply
  split
  · simp
  · rw [sockets_write]
    exact e.sockets_modifyLink _ fun _ => rfl

@[simp] theorem sockets_processForward (s : Segment) :
    (e.processForward w s).sockets = e.sockets := by
  unfold processForward
  split
  · simp
  · rename_i l _
    have hheard := e.sockets_modifyLink l.id
      (f := fun l => (l.observe .guest s).touch w.now) fun _ => rfl
    dsimp only
    split_ifs
    · refine Eq.trans ?_ hheard
      exact sockets_modifyLink _ l.id fun _ => rfl
    · exact hheard
    · rw [sockets_write, hheard]

/-- A request of the guest brings no socket and takes that of a finished link at most. -/
lemma sockets_processSyn (hlab : e.links.Labelled) (hnew : e.links.link? e.links.nextId = none)
    (s : Segment) : (e.processSyn w s).sockets.Perm e.sockets := by
  have hdrop := e.sockets_dropFinished hlab (s.source, s.destination)
  have hnew := e.link?_dropFinished_eq_none (s.source, s.destination) hnew
  rw [← e.nextId_dropFinished (s.source, s.destination)] at hnew
  have ho := e.requestOutcome_processSyn w s
  generalize e.dropFinished (s.source, s.destination) = d, e.processSyn w s = e' at hdrop hnew ho ⊢
  refine .trans (.of_eq ?_) hdrop
  have htouch := fun id => d.sockets_modifyLink id (f := (·.touch w.now)) fun _ => rfl
  cases ho with
  | @repeated id =>
    rw [sockets_repeatSyn]
    exact htouch id
  | @unknown id => exact htouch id
  | refused => exact (sockets_sendReset ..).trans (sockets_emit _ rfl)
  | @opened port ports =>
    have hcreate : (LinkTable.create { d.links with ports } (s.source, s.destination) port
        w.now).sockets = d.links.sockets := LinkTable.sockets_create hnew ..
    rw [sockets_openLink]
    refine (sockets_emit _ rfl).trans ?_
    simp only [sockets, hcreate]
    rfl

lemma Dispatches.sockets {w : Surroundings} {e e' : Engine} (h : Dispatches w e e') :
    e'.sockets = e.sockets := by
  induction h with
  | sent => exact sockets_absorb ..
  | forwarded e => exact e.sockets_emit rfl
  | trans _ _ ih ih' => exact ih'.trans ih
  | _ => rfl

lemma sockets_input (h : e.Coherent) (bytes : Bytes) :
    (e.input w bytes).sockets.Perm e.sockets := by
  obtain ⟨f, ⟨s, heq⟩ | hdispatches⟩ := e.input_cases w bytes
  · rw [heq, ← e.sockets_count f]
    unfold processTcp
    split_ifs
    · rw [sockets_processReply]
    · rw [sockets_count]
    · refine sockets_processSyn _ w ?_ ?_ s
      · exact h.links.labelled
      · exact h.nextId_unknown
    · rw [sockets_processForward]
  · rw [hdispatches.sockets, sockets_count]

/-- The connection of a link brings a socket, which its link holds if it is open. -/
lemma sockets_connected (h : e.Coherent) (id : LinkId) (socket : SocketId) :
    (e.connected w id socket).sockets.Perm (e.sockets ++ e.obtains (.connected id socket)) := by
  simp only [obtains]
  by_cases hid : id ∈ e.dialing
  · obtain ⟨l, hl, hsocket⟩ := h.known id hid
    obtain rfl := h.id_eq hl
    rw [if_pos hid]
    cases hclosed : l.closed with
    | true =>
      rw [connected_of_closed hid hl hclosed, sockets, hungUp, emit, List.filterMap_append,
        ← List.append_assoc]
      exact .refl _
    | false =>
      have hattach : (e.connected w l.id socket).sockets = (e.attach l socket).sockets := by
        rw [connected_of_open hid hl hclosed]
        cases l.pending with
        | none => rfl
        | some syn => exact sockets_write ..
      have hmodify := LinkTable.sockets_modify hl
        fun _ => { l with socket := some socket, pending := none }
      rw [hsocket] at hmodify
      rw [hattach]
      refine List.perm_iff_count.mpr fun s => ?_
      have hcount := hmodify.count_eq s
      simp only [sockets, hungUp, attach, modifyLink, List.count_append, Option.toList_none,
        List.count_nil, Option.toList_some] at hcount ⊢
      omega
  · rw [connected_of_notMem hid, if_neg hid, List.append_nil]

lemma sockets_dialFailed (h : e.Coherent) (id : LinkId) :
    (e.dialFailed w id).sockets.Perm e.sockets := by
  by_cases hid : id ∈ e.dialing
  · obtain ⟨l, hl, -⟩ := h.known id hid
    obtain rfl := h.id_eq hl
    have hgiven : (e.giveUp l).sockets.Perm e.sockets := by
      refine (sockets_closeLink _ ?_ l.id).trans (.of_eq ?_)
      · exact (relinks_modifyLink _ l.id (Link.inPlace_pending fun _ => none)).labelled
          h.links.labelled
      · exact sockets_modifyLink _ l.id fun _ => rfl
    rw [dialFailed_eq hid hl]
    cases l.pending with
    | none => exact hgiven
    | some syn => exact (List.Perm.of_eq (sockets_sendReset ..)).trans hgiven
  · rw [dialFailed_of_notMem hid]

lemma sockets_sweepLink (hlab : e.links.Labelled) (now : Nat) (id : LinkId) :
    (e.sweepLink now id).1.sockets.Perm e.sockets := by
  refine (sweepLink_induction (P := fun d => e.Relinks d ∧ d.sockets.Perm e.sockets) e id
    ⟨.refl e, .refl _⟩ (fun l hl _ => ?_) fun d h => ?_).2
  · obtain rfl := hlab id l hl
    exact ⟨e.relinks_finalize hl now,
      e.sockets_release (f := fun _ => (l.beginFinal now).detach) hl rfl⟩
  · exact ⟨h.1.trans (d.relinks_closeLink id),
      (d.sockets_closeLink (h.1.labelled hlab) id).trans h.2⟩

lemma sockets_sweepLinks (hlab : e.links.Labelled) (now : Nat) (order : List LinkId) :
    (e.sweepLinks now order).1.sockets.Perm e.sockets := by
  refine (sweepLinks_induction (P := fun d => e.Relinks d ∧ d.sockets.Perm e.sockets) e order
    ⟨.refl e, .refl _⟩ fun d id h => ?_).2
  have hlab' := h.1.labelled hlab
  exact ⟨h.1.trans (d.relinks_sweepLink hlab' now id),
    (d.sockets_sweepLink hlab' now id).trans h.2⟩

lemma sockets_stop (h : e.Coherent) : (e.stop w).1.sockets.Perm e.sockets := by
  unfold stop
  split
  · exact .refl _
  · dsimp only
    rw [sockets_noteRouting, sockets_absorb]
    refine List.perm_iff_count.mpr fun socket => ?_
    have hcount := (LinkTable.sockets_clear h.consistent.live_nodup).count_eq socket
    have hclosed := sockets_hangUp { e with running := false, links := e.links.clear.1 }
      e.links.clear.2
    change List.count socket (({ e with running := false, links := e.links.clear.1 } :
      Engine).hangUp e.links.clear.2).sockets = _
    rw [hclosed]
    simp only [sockets, hungUp, List.count_append] at hcount ⊢
    omega

/-- An event loses no socket and closes none twice: it adds those that it brings. -/
lemma sockets_step (h : e.Coherent) (event : Event) :
    (e.step w event).sockets.Perm (e.sockets ++ e.obtains event) := by
  cases event with
  | connected id socket => exact e.sockets_connected w h id socket
  | input bytes => exact (e.sockets_input w h bytes).trans (.of_eq (List.append_nil _).symm)
  | dialFailed id => exact (e.sockets_dialFailed w h id).trans (.of_eq (List.append_nil _).symm)
  | flow event =>
    refine .of_eq (.trans ?_ (List.append_nil _).symm)
    exact sockets_absorb ..
  | carried id sent received =>
    refine .of_eq (.trans ?_ (List.append_nil _).symm)
    exact e.sockets_modifyLink id fun _ => rfl
  | sweep =>
    refine .trans (.of_eq ?_) ((e.sockets_sweepLinks h.links.labelled w.now e.links.live).trans
      (.of_eq (List.append_nil _).symm))
    exact sockets_absorb ..
  | start =>
    refine .of_eq (.trans ?_ (List.append_nil _).symm)
    have hnoted :=
      e.sockets_noteRouting (Routing.apply w.routing e.config.routes e.config.dns).1
    simp only [step, start]
    split
    · rfl
    · split <;> exact hnoted
  | stop => exact (e.sockets_stop w h).trans (.of_eq (List.append_nil _).symm)

end Steps

section Runs

variable {e : Engine}

/-- The sockets that a run brings are those that links hold or that were closed, each as many
times as it was brought. -/
theorem sockets_run (h : e.Coherent) (events : List (Surroundings × Event))
    (hdials : (e.run events).dials < UInt64.size) :
    (e.run events).sockets.Perm (e.sockets ++ e.obtained events) := by
  induction events generalizing e with
  | nil => exact .of_eq (List.append_nil _).symm
  | cons x rest ih =>
    have hstep := (e.sockets_step x.1 h x.2).append_right ((e.step x.1 x.2).obtained rest)
    rw [List.append_assoc] at hstep
    exact (ih (h.step_of_run hdials) hdials).trans hstep

/-- A socket that was brought once is held by one link, or was closed once. -/
lemma held_or_closed (hsockets : e.sockets.Nodup) (hlabelled : e.links.Labelled)
    {socket : SocketId} (hsocket : socket ∈ e.sockets) :
    (∃ l, e.links.link? l.id = some l ∧ l.socket = some socket ∧
        (∀ id m, e.links.link? id = some m → m.socket = some socket → m = l) ∧
        socket ∉ e.hungUp) ∨
      (socket ∉ e.links.sockets ∧ e.hungUp.count socket = 1) := by
  obtain ⟨hheld, hclosed, hapart⟩ := List.nodup_append.mp hsockets
  rcases List.mem_append.mp hsocket with hin | hin
  · obtain ⟨id, l, hl, hls⟩ := LinkTable.mem_sockets_iff.mp hin
    obtain rfl := hlabelled id l hl
    refine .inl ⟨l, hl, hls, fun j m hm hms => ?_, fun hup => hapart _ hin _ hup rfl⟩
    obtain rfl := LinkTable.eq_of_socket_eq hheld hl hm hls hms
    exact Option.some.inj (hm.symm.trans hl)
  · refine .inr ⟨fun hheld => hapart _ hheld _ hin rfl, ?_⟩
    exact List.count_eq_one_of_mem hclosed hin

end Runs

/-- In every state that a run leads to, each socket that a connection brought, if none was
brought twice, is either held by exactly one link, which is live, and has not been closed, or
is held by no link that was ever created and has been closed exactly once. -/
theorem socket_held_or_closed {c : Config} {e₀ : Engine} (hbuild : build c true = .ok e₀)
    (events : List (Surroundings × Event)) (hdials : (e₀.run events).dials < UInt64.size)
    (hfresh : (e₀.obtained events).Nodup) :
    let e := e₀.run events
    ∀ socket ∈ e₀.obtained events,
      (∃ l, e.links.findTuple l.key = some l ∧ l.socket = some socket ∧
        (∀ id m, e.links.link? id = some m → m.socket = some socket → m = l) ∧
        Effect.hangUp socket ∉ e.outbox) ∨
      ((∀ id m, e.links.link? id = some m → m.socket ≠ some socket) ∧
        e.outbox.count (.hangUp socket) = 1) := by
  intro e socket hsocket
  have h : e.Coherent := coherent_run hbuild events hdials
  have hperm : e.sockets.Perm (e₀.obtained events) := by
    obtain ⟨-, rfl⟩ := build_eq_ok hbuild
    exact sockets_run (coherent_ofConfig c) events hdials
  have hnodup : e.sockets.Nodup := hperm.nodup_iff.mpr hfresh
  have hmem : socket ∈ e.sockets := hperm.mem_iff.mpr hsocket
  rcases held_or_closed hnodup h.links.labelled hmem with
    ⟨l, hl, hls, hunique, hnot⟩ | ⟨hnot, honce⟩
  · have hopen : l.closed = false := by
      refine Bool.eq_false_iff.mpr fun hclosed => ?_
      have hnone := ((h.orderly l.id l hl).closed hclosed).2
      cases hls.symm.trans hnone
    refine .inl ⟨l, h.findTuple_eq hl hopen, hls, hunique, fun hup => hnot ?_⟩
    exact List.mem_filterMap.mpr ⟨_, hup, rfl⟩
  · refine .inr ⟨fun id m hm hms => hnot (LinkTable.mem_sockets_iff.mpr ⟨id, m, hm, hms⟩), ?_⟩
    rw [← honce, count_hungUp]

/-- A connection of the guest is closed and a sweep takes its socket, while another goes on. -/
theorem socket_held_or_closed_swept :
    let syn : Segment :=
      { source := ⟨⟨10, 0, 0, 5⟩, 51000⟩, destination := ⟨⟨93, 184, 216, 34⟩, 80⟩
        flags := { syn := true }, sequence := 100 }
    let fin : Segment := { syn with flags := { fin := true, ack := true }, sequence := 101 }
    let other : Segment := { syn with source := ⟨⟨10, 0, 0, 5⟩, 51001⟩ }
    let events : List (Surroundings × Event) :=
      [({}, .input syn.toBytes), ({}, .connected 1 7), ({}, .input fin.toBytes), ({}, .sweep),
        ({}, .input other.toBytes), ({}, .connected 2 8)]
    let e := (ofConfig {}).run events
    build {} true = .ok (ofConfig {}) ∧ e.dials < UInt64.size ∧
      ((ofConfig {}).obtained events).Nodup ∧
      (∃ l, e.links.findTuple l.key = some l ∧ l.socket = some 8) ∧
      Effect.hangUp 8 ∉ e.outbox ∧ e.outbox.count (.hangUp 7) = 1 := by
  intro syn fin other events e
  have hbuild : build {} true = .ok (ofConfig {}) := rfl
  have hdials : e.dials < UInt64.size := by decide +kernel
  have hobtained : (ofConfig {}).obtained events = [7, 8] := by decide +kernel
  have hfresh : ((ofConfig {}).obtained events).Nodup := by rw [hobtained]; decide
  have hboth := socket_held_or_closed hbuild events hdials hfresh
  rw [hobtained] at hboth
  have hclosed : Effect.hangUp 7 ∈ e.outbox := by decide +kernel
  have hkept : e.outbox.count (.hangUp 8) ≠ 1 := by decide +kernel
  obtain ⟨l, hl, hls, -, hnot⟩ := (hboth 8 (by decide)).resolve_right fun h => hkept h.2
  have honce := (hboth 7 (by decide)).resolve_left fun ⟨_, _, _, _, hnot⟩ => hnot hclosed
  exact ⟨hbuild, hdials, hfresh, ⟨l, hl, hls⟩, hnot, honce.2⟩

end Engine

end GuestNat
