import GuestNat.Engine.Basic

/-!
# TCP segments between the two sides

A segment of the guest leaves with the link's stand-in as its source and the
listener as its destination; a segment from the listener to the stand-in goes back
with the destination as its source and the guest as its destination. The request
that opens a link waits until the link's socket is connected.
-/
namespace GuestNat.Engine

/-- A segment of the guest as the host side sees it. -/
def translate (e : Engine) (l : Link) (s : Segment) : Segment :=
  { s with source := l.standIn, destination := e.config.listener }

/-- A segment of the host side as the guest sees it. -/
def untranslate (l : Link) (s : Segment) : Segment :=
  { s with source := l.destination, destination := l.source }

/-- A segment from the listener to a port of the gateway. -/
def processReply (e : Engine) (w : Surroundings) (s : Segment) : Engine :=
  match e.links.findPort s.destination.port with
  | none => e.sendReset w s
  | some l =>
    (e.modifyLink l.id fun l => (l.observe .host s).touch w.now).write w .translated
      (untranslate l s).toFrame

/-- Closes the link of a 4-tuple if it is finished, so that a new one can take its place. -/
def dropFinished (e : Engine) (key : LinkKey) : Engine :=
  match e.links.findTuple key with
  | some l => if l.state.finished ∨ l.stage = .closed then (e.closeLink l.id).1 else e
  | none => e

/-- What the closing of the finished link of a 4-tuple preserves holds once that gave way. -/
theorem dropFinished_induction {P : Engine → Prop} (e : Engine) (key : LinkKey) (start : P e)
    (close : ∀ l, e.links.findTuple key = some l → P (e.closeLink l.id).1) :
    P (e.dropFinished key) := by
  unfold dropFinished
  split
  · rename_i l hl
    split
    · exact close l hl
    · exact start
  · exact start

/-- Begins a new link with the request that opened it. -/
def openLink (e : Engine) (l : Link) (s : Segment) : Engine :=
  let e := e.modifyLink l.id fun l => { l.observe .guest s with pending := some (e.translate l s) }
  { e with dialing := e.dialing ++ [l.id] }
    |>.count .linkCreated
    |>.emit (.dial l.id l.destination)

/-- A repeated request on a link: it is translated, or waits if the link has no socket. -/
def repeatSyn (e : Engine) (w : Surroundings) (l : Link) (s : Segment) : Engine :=
  let e := e.modifyLink l.id (·.observe .guest s)
  if l.socket.isSome then e.write w .translated (e.translate l s).toFrame
  else e.modifyLink l.id fun l => { l with pending := some (e.translate l s) }

def processSyn (e : Engine) (w : Surroundings) (s : Segment) : Engine :=
  let e := e.dropFinished (s.source, s.destination)
  let (links, allocation) := e.links.allocate (s.source, s.destination) w.reserved w.now
  let e := { e with links }
  match allocation with
  | .error _ => (e.emit .portQuery).sendReset w s
  | .ok (.created id) =>
    match e.links.link? id with
    | some l => (e.emit .portQuery).openLink l s
    | none => e
  | .ok (.existing id) =>
    match e.links.link? id with
    | some l => e.repeatSyn w l s
    | none => e

/-- Any other segment of the guest. While the request of its link waits, the host side has
not seen the connection, so the segment goes no further; a reset cancels the request. -/
def processForward (e : Engine) (w : Surroundings) (s : Segment) : Engine :=
  match e.links.findTuple (s.source, s.destination) with
  | none => e.sendReset w s
  | some l =>
    let e := e.modifyLink l.id fun l => (l.observe .guest s).touch w.now
    if l.pending.isSome then
      if s.flags.rst then e.modifyLink l.id fun l => { l with pending := none } else e
    else e.write w .translated (e.translate l s).toFrame

/-- A TCP segment. What goes to the gateway must come from the listener. -/
def processTcp (e : Engine) (w : Surroundings) (s : Segment) : Engine :=
  if s.destination.ip = e.config.gateway then
    if s.source = e.config.listener then e.processReply w s else e.count .frameDropped
  else if s.flags.opens then e.processSyn w s
  else e.processForward w s

/-- The connection of a link is open. If the link was closed meanwhile, so is its socket;
otherwise the waiting request goes out. -/
def connected (e : Engine) (w : Surroundings) (id : LinkId) (socket : SocketId) : Engine :=
  if id ∉ e.dialing then e
  else
    let e := { e with dialing := e.dialing.erase id }
    match e.links.link? id >>= fun l => (l.attach? socket).map fun l' => (l.pending, l') with
    | none => e.emit (.hangUp socket)
    | some (pending, l) =>
      let e := e.modifyLink id fun _ => { l with pending := none }
      match pending with
      | some syn => e.write w .translated syn.toFrame
      | none => e

/-- The connection of a link could not be opened. The link is closed and a waiting request
is answered with a reset. -/
def dialFailed (e : Engine) (w : Surroundings) (id : LinkId) : Engine :=
  if id ∉ e.dialing then e
  else
    let e := { e with dialing := e.dialing.erase id }
    match e.links.link? id with
    | none => e
    | some l =>
      let e := (e.modifyLink id fun l => { l with pending := none }).closeLink id |>.1
      match l.pending with
      | some syn => e.sendReset w { syn with source := l.source, destination := l.destination }
      | none => e

end GuestNat.Engine
