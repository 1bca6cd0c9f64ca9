import GuestNat.Proofs.Engine.Waiting

/-!
# The first segment of a link

The host side should hear of a connection from the request that opens it. It does as long as
nothing takes the request away while it waits: then no segment of the link is written before
the request goes out (`request_goes_first`). A reset of the guest cancels the request, though,
and leaves the link in the table, so that whatever the guest sends next is the first that the
host side hears.
-/
namespace GuestNat

namespace Engine

/-- An event takes a waiting request away that was not written: the guest resets the
connection, or the interface refuses the request when it goes out. -/
def Withdraws (e : Engine) (id : LinkId) (w : Surroundings) (event : Event) : Prop :=
  ∃ l, e.links.link? id = some l ∧ l.pending.isSome = true ∧
    ((∃ bytes s, event = .input bytes ∧ e.Hears bytes l s ∧ s.flags.opens = false ∧
        s.flags.rst = true) ∨
      ((∃ socket, event = .connected id socket) ∧ w.accepts = false))

/-- The segments of a link begin with a request, or there are none yet, and the request waits
while the link is live. -/
def BeginsWithRequest (e : Engine) (id : LinkId) (out : List (FrameCause × Flags)) : Prop :=
  (out = [] ∧ ∀ l, e.links.link? id = some l → l.closed = false → l.pending.isSome = true) ∨
    ∃ flags rest, out = (.translated, flags) :: rest ∧ flags.opens = true

variable {e : Engine} {w : Surroundings} {id : LinkId} {event : Event}

/-- A request that waits keeps waiting or goes out, unless it is withdrawn. -/
lemma Fate.request {e' : Engine} {l l' : Link} {sent : List (FrameCause × Flags)}
    (hfate : Fate e e' w id event (some l) (some l') sent) (hl : e.links.link? id = some l)
    (horderly : l.Orderly) (hwaits : l.pending.isSome = true) :
    e.Withdraws id w event ∨
      (sent = [] ∧ (l'.closed = false → l'.pending.isSome = true)) ∨
      ∃ flags, sent = [(.translated, flags)] ∧ flags.opens = true := by
  cases hfate with
  | forwarded _ _ hpending => simp [hpending] at hwaits
  | cancelled hs hopens _ hreset =>
    exact .inl ⟨l, hl, hwaits, .inl ⟨_, _, rfl, hs, hopens, hreset⟩⟩
  | repeated _ _ _ hsocket => simp [horderly.socket hwaits] at hsocket
  | awaits => exact .inr (.inl ⟨rfl, fun _ => rfl⟩)
  | attached =>
    obtain ⟨syn, hsyn⟩ := Option.isSome_iff_exists.mp hwaits
    cases hw : w.accepts with
    | true =>
      refine .inr (.inr ⟨syn.flags, ?_, horderly.opens syn hsyn⟩)
      rw [hsyn, Option.elim_some, passes, if_pos hw]
    | false => exact .inl ⟨l, hl, hwaits, .inr ⟨⟨_, rfl⟩, hw⟩⟩
  | closed => exact .inr (.inl ⟨rfl, nofun⟩)
  | _ => exact .inr (.inl ⟨rfl, fun _ => hwaits⟩)

/-- An event in the life of a link adds to its segments, which still begin with a request unless
the event withdraws it. -/
lemma BeginsWithRequest.step (h : e.Coherent) {out : List (FrameCause × Flags)}
    (hout : e.BeginsWithRequest id out) {l : Link} (hl : e.links.link? id = some l)
    (hopen : l.closed = false) (w : Surroundings) (event : Event) :
    ∃ l' sent, (e.step w event).links.link? id = some l' ∧ l'.standIn = l.standIn ∧
      (e.step w event).sentFrom l.standIn = e.sentFrom l.standIn ++ sent ∧
      (e.Withdraws id w event ∨ (e.step w event).BeginsWithRequest id (out ++ sent)) := by
  obtain ⟨sent, hfate, hsent⟩ := meets_step h w event id
  rw [hl] at hfate
  obtain ⟨l', hl', -⟩ := hfate.known
  rw [hl'] at hfate
  have hstandIn := hfate.standIn_eq
  refine ⟨l', sent, hl', hstandIn, ?_, ?_⟩
  · rw [← hstandIn]
    exact hsent l' hl' fun m hm => Option.some.inj (hl.symm.trans hm) ▸ hopen
  · rcases hout with ⟨rfl, hwaits⟩ | ⟨flags, rest, rfl, hopens⟩
    · rcases hfate.request hl (h.orderly id l hl) (hwaits l hl hopen) with
        hwithdraws | ⟨rfl, hwaits'⟩ | ⟨flags, rfl, hopens⟩
      · exact .inl hwithdraws
      · refine .inr (.inl ⟨rfl, fun m hm => ?_⟩)
        rwa [← Option.some.inj (hl'.symm.trans hm)]
      · exact .inr (.inr ⟨flags, [], rfl, hopens⟩)
    · exact .inr (.inr ⟨flags, rest ++ sent, rfl, hopens⟩)

lemma BeginsWithRequest.run (h : e.Coherent) {out : List (FrameCause × Flags)}
    (hout : e.BeginsWithRequest id out) {l : Link} (hl : e.links.link? id = some l)
    (events : List (Surroundings × Event)) (hdials : (e.run events).dials < UInt64.size)
    (hlive : ∀ k < events.length, ∃ m,
      (e.run (events.take k)).links.link? id = some m ∧ m.closed = false) :
    (∃ earlier w event rest, events = earlier ++ (w, event) :: rest ∧
      (e.run earlier).Withdraws id w event) ∨
    ∃ sent, (e.run events).sentFrom l.standIn = e.sentFrom l.standIn ++ sent ∧
      (e.run events).BeginsWithRequest id (out ++ sent) := by
  -- What was written so far is carried along in `out`, and the stand-in never changes.
  induction events generalizing e out l with
  | nil => exact .inr ⟨[], (List.append_nil _).symm, by rwa [List.append_nil]⟩
  | cons x rest ih =>
    obtain ⟨w, event⟩ := x
    obtain ⟨m, hm, hopen⟩ := hlive 0 (Nat.succ_pos _)
    obtain rfl := Option.some.inj (hl.symm.trans hm)
    obtain ⟨l', sent, hl', hstandIn, hsent, hwithdraws | hout'⟩ := hout.step h hl hopen w event
    · exact .inl ⟨[], w, event, rest, rfl, hwithdraws⟩
    · have hlabelled := (e.relinks_step w h.links.labelled event).labelled h.links.labelled
      have hstep := h.step w event (Nat.lt_of_le_of_lt (dials_le_run hlabelled rest) hdials)
      rcases ih hstep hout' hl' hdials (fun k hk => hlive (k + 1) (Nat.succ_lt_succ hk)) with
        ⟨earlier, v, y, rest', rfl, hwithdraws⟩ | ⟨sent', hsent', hout''⟩
      · exact .inl ⟨(w, event) :: earlier, v, y, rest', rfl, hwithdraws⟩
      · rw [hstandIn, hsent] at hsent'
        refine .inr ⟨sent ++ sent', ?_, ?_⟩
        · rw [← List.append_assoc]
          exact hsent'
        · rw [← List.append_assoc]
          exact hout''

/-- A new link has written nothing yet, and its request waits. -/
lemma Fate.new {e' : Engine} {l : Link} {sent : List (FrameCause × Flags)}
    (hfate : Fate e e' w id event none (some l) sent) :
    sent = [] ∧ l.pending.isSome = true := by
  cases hfate
  exact ⟨rfl, rfl⟩

lemma beginsWithRequest_of_new (h : e.Coherent) {l : Link} (hnew : e.links.link? id = none)
    (hl : (e.step w event).links.link? id = some l) :
    (e.step w event).sentFrom l.standIn = e.sentFrom l.standIn ∧
      (e.step w event).BeginsWithRequest id [] := by
  obtain ⟨sent, hfate, hsent⟩ := meets_step h w event id
  have hwritten := hsent l hl (by simp [hnew])
  rw [hnew, hl] at hfate
  obtain ⟨rfl, hwaits⟩ := hfate.new
  rw [List.append_nil] at hwritten
  refine ⟨hwritten, .inl ⟨rfl, fun m hm _ => ?_⟩⟩
  obtain rfl := Option.some.inj (hl.symm.trans hm)
  exact hwaits

/-- Once no request waits, any other segment of the guest goes out. -/
lemma sentFrom_of_hears (h : e.Coherent) {l : Link} (hl : e.links.link? id = some l)
    {bytes : Bytes} {s : Segment} (hs : e.Hears bytes l s) (hopens : s.flags.opens = false)
    (hpending : l.pending = none) (hw : w.accepts = true) :
    (e.input w bytes).sentFrom l.standIn = e.sentFrom l.standIn ++ [(.translated, s.flags)] := by
  rw [e.sentFrom_append l.standIn (outbox_of_hears h hl hs hopens hpending hw)]
  have hhead : (Effect.frame .translated (e.translate l s).toBytes).sentFrom? l.standIn =
      some (.translated, s.flags) := by
    simp [Effect.sentFrom?, Segment.toBytes, translate]
  rw [List.filterMap_cons_some hhead, List.filterMap_nil]

/-- Let an event create a link, and let the link be live whenever something happens after that.
What is then written from the stand-in of the link is nothing or begins with a request, unless
the request was withdrawn while it waited. Once no request waits, whatever else the guest
sends goes out, so a request that was withdrawn is not made up for. -/
theorem request_goes_first {c : Config} {e₀ : Engine} (hbuild : build c true = .ok e₀)
    (before later : List (Surroundings × Event)) (w : Surroundings) (event : Event)
    (hdials : (e₀.run (before ++ (w, event) :: later)).dials < UInt64.size) {id : LinkId}
    {l : Link} (hnew : (e₀.run before).links.link? id = none)
    (hl : (e₀.run (before ++ [(w, event)])).links.link? id = some l)
    (hlive : ∀ k < later.length, ∃ m,
      (e₀.run (before ++ (w, event) :: later.take k)).links.link? id = some m ∧
        m.closed = false) :
    let e := e₀.run (before ++ (w, event) :: later)
    ((∃ earlier w' event' rest, later = earlier ++ (w', event') :: rest ∧
        (e₀.run (before ++ (w, event) :: earlier)).Withdraws id w' event') ∨
      ∃ out, e.sentFrom l.standIn = (e₀.run before).sentFrom l.standIn ++ out ∧
        (out = [] ∨ ∃ flags rest, out = (.translated, flags) :: rest ∧ flags.opens = true)) ∧
    ∀ m, e.links.link? id = some m → m.pending = none → ∀ w' bytes s, e.Hears bytes m s →
      s.flags.opens = false → w'.accepts = true →
        (e.step w' (.input bytes)).sentFrom m.standIn =
          e.sentFrom m.standIn ++ [(.translated, s.flags)] := by
  have hafter : (e₀.run (before ++ (w, event) :: later)).Coherent :=
    coherent_run hbuild _ hdials
  have hlabelled : (e₀.run before).links.Labelled := (sound_run hbuild before).1.links.labelled
  have hdials₀ : (e₀.run before).dials ≤ (e₀.run (before ++ (w, event) :: later)).dials := by
    rw [run_append]
    exact dials_le_run hlabelled _
  have hbefore : (e₀.run before).Coherent :=
    coherent_run hbuild before (Nat.lt_of_le_of_lt hdials₀ hdials)
  refine ⟨?_, fun m hm hpending w' bytes s hs hopens hw =>
    sentFrom_of_hears hafter hm hs hopens hpending hw⟩
  simp only [run_append, run_cons, run_nil] at hdials hl hlive ⊢
  generalize e₀.run before = e at *
  obtain ⟨hnothing, hbegins⟩ := beginsWithRequest_of_new hbefore hnew hl
  have hcreated := hbefore.step w event
    (Nat.lt_of_le_of_lt (dials_le_run ((e.relinks_step w hlabelled event).labelled hlabelled) later)
      hdials)
  rw [← hnothing]
  refine (hbegins.run hcreated hl later hdials hlive).imp_right ?_
  rintro ⟨out, hout, hbegins⟩
  exact ⟨out, hout, hbegins.imp_left And.left⟩

/-- The connection completes, and the request is the first that was written. -/
theorem request_goes_first_connected :
    let syn : Segment :=
      { source := ⟨⟨10, 0, 0, 5⟩, 51000⟩, destination := ⟨⟨93, 184, 216, 34⟩, 80⟩
        flags := { syn := true }, sequence := 100 }
    let e := (ofConfig {}).run [({}, .input syn.toBytes), ({}, .connected 1 7)]
    build {} true = .ok (ofConfig {}) ∧ e.dials < UInt64.size ∧
      ∃ flags rest, e.sentFrom ⟨⟨10, 0, 0, 2⟩, 49152⟩ = (.translated, flags) :: rest ∧
        flags.opens = true := by
  intro syn e
  let l := (((ofConfig {}).run [({}, .input syn.toBytes)]).links.link? 1).getD default
  have hbuild : build {} true = .ok (ofConfig {}) := rfl
  have hdials : e.dials < UInt64.size := by decide +kernel
  have hl : ((ofConfig {}).run [({}, .input syn.toBytes)]).links.link? 1 = some l := by
    decide +kernel
  have hstandIn : l.standIn = ⟨⟨10, 0, 0, 2⟩, 49152⟩ := by decide +kernel
  obtain ⟨hfirst, -⟩ := request_goes_first hbuild [] [({}, .connected 1 7)] {}
    (.input syn.toBytes) hdials rfl hl (by
      intro k hk
      obtain rfl : k = 0 := Nat.lt_one_iff.mp hk
      exact ⟨l, hl, by decide +kernel⟩)
  refine ⟨hbuild, hdials, ?_⟩
  rcases hfirst with ⟨earlier, w, event, rest, hlater, _, -, -, hcase⟩ | ⟨out, hout, hbegins⟩
  · have hevent : (w, event) = ({}, .connected 1 7) := by
      rw [← List.mem_singleton, hlater]
      exact List.mem_append_right _ List.mem_cons_self
    obtain ⟨rfl, rfl⟩ := Prod.mk.inj hevent
    rcases hcase with ⟨bytes, s, hinput, -⟩ | ⟨-, hrefused⟩
    · cases hinput
    · cases hrefused
  · rw [hstandIn] at hout
    change e.sentFrom _ = out at hout
    rw [hout]
    refine hbegins.resolve_left ?_
    rintro rfl
    exact absurd hout (by decide +kernel)

/-- The guest resets the connection while it is being opened, and its next segment is the first
that is written for the link, which is still there. -/
theorem acknowledgment_goes_first :
    let syn : Segment :=
      { source := ⟨⟨10, 0, 0, 5⟩, 51000⟩, destination := ⟨⟨93, 184, 216, 34⟩, 80⟩
        flags := { syn := true }, sequence := 100 }
    let rst : Segment := { syn with flags := { rst := true }, sequence := 101 }
    let ack : Segment :=
      { syn with flags := { ack := true }, sequence := 101, acknowledgment := 1 }
    let e := (ofConfig {}).run
      [({}, .input syn.toBytes), ({}, .input rst.toBytes), ({}, .input ack.toBytes)]
    build {} true = .ok (ofConfig {}) ∧
      (e.links.findTuple (syn.source, syn.destination)).map (·.standIn) =
        some ⟨⟨10, 0, 0, 2⟩, 49152⟩ ∧
      e.sentFrom ⟨⟨10, 0, 0, 2⟩, 49152⟩ = [(.translated, { ack := true })] := by
  refine ⟨rfl, ?_, ?_⟩ <;> decide +kernel

end Engine

end GuestNat
