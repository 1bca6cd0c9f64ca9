import GuestNat.Proofs.Engine.Carried
import GuestNat.Proofs.Relay.Pipe

/-!
# A relay is a faithful pipe both ways

The two ways of a relay do not know of each other: in whatever order they take their turns, each
is where its own turns have brought it (`Relay.run_eq`), and what the engine learns of the two
adds up to what they carried (`Relay.sum_load_run`). A way that nothing fails delivers its stream
in order and announces its end once, behind the last octet. A way whose sink fails has counted
the reads that were written whole and nothing of the one that failed. So of both streams nothing
is lost, doubled or mixed up, and the counts of the link are exact (`Relay.run_faithful`).
-/
namespace GuestNat

namespace Pipe

/-- A pipe that has not begun. -/
structure Fresh (p : Pipe) : Prop where
  result : p.result = none
  written : p.sink.written = []
  ends : p.sink.ends = 0

/-- A pipe that no fault awaits: its source ends behind its last chunk, its sink takes the whole
stream, and the end can be announced. -/
structure Faultless (p : Pipe) : Prop where
  failure : p.source.failure = none
  room : p.sink.Takes p.source.stream.length
  endFault : p.sink.endFault = none

/-- While a pipe runs, it has written a first part of a stream and announced nothing. At its end
it has written the stream and announced the end once. -/
def Delivers (q : Pipe) (stream : Bytes) : Prop :=
  match q.result with
  | none => q.sink.written <+: stream ∧ q.sink.ends = 0
  | some result => result = .ok () ∧ q.sink.written = stream ∧ q.sink.ends = 1

/-- What became of a pipe whose sink takes only so many octets of its stream. While it runs,
it has written what it has read. At its end it has written what there was room for and announced
nothing, and all but the last of its reads were written whole. -/
def BreaksOff (p q : Pipe) (room : Nat) (fault : Fault) (done : List Bytes) : Prop :=
  done.flatten.length ≤ room ∧ q.sink.ends = 0 ∧
    match q.result with
    | none => p.source.Reads bufferSize done q.source ∧ q.sink.written = done.flatten
    | some result => result = .error fault ∧ q.sink.written = p.source.stream.take room ∧
      ∃ s last, p.source.Reads bufferSize done s ∧ s.read bufferSize = (q.source, .ok last) ∧
        room < (done ++ [last]).flatten.length

variable {p q : Pipe} {n : Nat}

lemma Course.delivers (h : p.Course q n) (hp : p.Fresh) (hfaultless : p.Faultless) :
    q.Delivers p.source.stream ∧ n = q.sink.written.length := by
  have hwritten {bs : Bytes} (htakes : p.sink.Takes bs.length) :
      (p.sink.write bs).1.written = bs := by
    rw [Sink.written_of_takes htakes, hp.written, List.nil_append]
  have hends (bs : Bytes) : (p.sink.write bs).1.ends = 0 := by rw [Sink.ends_write, hp.ends]
  cases h with
  | @running done s hreads htakes =>
    refine ⟨⟨?_, hends _⟩, by rw [hwritten htakes]⟩
    rw [hwritten htakes, hreads.stream_eq]
    exact List.prefix_append ..
  | @ended done s t hreads htakes hend =>
    have hstream : p.source.stream = done.flatten := by
      rw [hreads.stream_eq, Source.stream_of_read_nil (by decide) hend, List.append_nil]
    have hfinish : (p.sink.write done.flatten).1.finish.2 = .ok () := by
      rw [Sink.finish, Sink.endFault_write, hfaultless.endFault]
    refine ⟨⟨hfinish, (hwritten htakes).trans hstream.symm, ?_⟩, ?_⟩
    · exact congrArg (· + 1) (hends _)
    · exact congrArg List.length (hwritten htakes).symm
  | unread hreads htakes hread =>
    exact absurd hread (Source.read_ne_error (hreads.failure_eq.trans hfaultless.failure))
  | @unwritten done s t failing fault hreads htakes hread hwrite =>
    -- What failed to be written is part of the stream, so there was room for it.
    exfalso
    have hnonempty : failing ≠ [] := by
      rintro rfl
      rw [(Sink.write_eq_ok_iff _ _).mpr fun _ _ => Nat.zero_le _] at hwrite
      cases hwrite
    have hfits : (done.flatten ++ failing).length ≤ p.source.stream.length := by
      rw [hreads.stream_eq, Source.stream_of_read hread hnonempty]
      simp
    rw [List.length_append] at hfits
    have hok := (Sink.takes_write_iff htakes failing.length).mpr (hfaultless.room.of_le hfits)
    rw [(Sink.write_eq_ok_iff _ _).mpr hok] at hwrite
    cases hwrite

/-- A pipe whose sink takes only so many octets of its stream breaks off, and counts the reads
that were written whole. -/
lemma Course.breaksOff (h : p.Course q n) (hp : p.Fresh) {room : Nat} {fault : Fault}
    (hlimit : p.sink.limit = some (room, fault)) (hroom : room < p.source.stream.length) :
    ∃ done, p.BreaksOff q room fault done ∧ n = done.flatten.length := by
  have hfits {bs : Bytes} (htakes : p.sink.Takes bs.length) : bs.length ≤ room :=
    htakes _ hlimit
  have hends (bs : Bytes) : (p.sink.write bs).1.ends = 0 := by rw [Sink.ends_write, hp.ends]
  cases h with
  | @running done s hreads htakes =>
    refine ⟨done, ⟨hfits htakes, hends _, hreads, ?_⟩, rfl⟩
    rw [Sink.written_of_takes htakes, hp.written, List.nil_append]
  | @ended done s t hreads htakes hend =>
    -- At its end the whole stream would have been written, for which there is no room.
    have hall := hfits htakes
    rw [hreads.stream_eq, Source.stream_of_read_nil (by decide) hend, List.append_nil] at hroom
    omega
  | @unread done s t _ hreads htakes hread =>
    have hall := hfits htakes
    rw [hreads.stream_eq, Source.stream_of_read_error hread, List.append_nil] at hroom
    omega
  | @unwritten done s t failing fault' hreads htakes hread hwrite =>
    have hover := (Sink.write_eq_error_iff (Sink.limit_write hlimit _) _ _).mp hwrite
    have hall := hfits htakes
    have hlast : room < (done ++ [failing]).flatten.length := by
      rw [List.flatten_concat, List.length_append]
      omega
    have hnonempty : failing ≠ [] := by
      rintro rfl
      exact Nat.not_lt_zero _ hover.1
    refine ⟨done, ⟨hall, hends _, by rw [hover.2], ?_, s, failing, hreads, hread, hlast⟩, rfl⟩
    have hstream : p.source.stream = (done ++ [failing]).flatten ++ t.stream :=
      (hreads.snoc hread hnonempty).stream_eq
    rw [hstream, List.take_append_of_le_length (Nat.le_of_lt hlast), List.flatten_concat]
    rw [Sink.written_write_of_limit hlimit, hp.written, List.nil_append]

end Pipe

namespace Relay

open scoped UInt64.CommRing

/-- The turns of one of the two ways do not concern the other. -/
lemma run_eq (r : Relay) (turns : List Party) :
    (r.run turns).1 =
      { r with
        outward := (r.outward.after (turns.count .client)).1
        homeward := (r.homeward.after (turns.count .socket)).1 } := by
  induction turns generalizing r with
  | nil => rfl
  | cons party rest ih =>
    cases party with
    | client => simp [run, step, ih, Pipe.after]
    | socket => simp [run, step, ih, Pipe.after]

lemma sum_load_step (r : Relay) (party : Party) :
    ((r.step party).2.map (·.load r.link)).sum =
      match party with
      | .client => (.ofNat r.outward.step.2, 0)
      | .socket => (0, .ofNat r.homeward.step.2) := by
  cases party with
  | client =>
    simp only [step]
    split
    · rename_i hn
      rw [hn]
      rfl
    · simp [Event.load]
  | socket =>
    simp only [step]
    split
    · rename_i hn
      rw [hn]
      rfl
    · simp [Event.load]

lemma sum_load_run (r : Relay) (turns : List Party) :
    ((r.run turns).2.map (·.load r.link)).sum =
      (.ofNat (r.outward.after (turns.count .client)).2,
        .ofNat (r.homeward.after (turns.count .socket)).2) := by
  induction turns generalizing r with
  | nil => rfl
  | cons party rest ih =>
    have hlink : (r.step party).1.link = r.link := by cases party <;> rfl
    have hlater := ih (r.step party).1
    rw [hlink] at hlater
    rw [run, List.map_append, List.sum_append, sum_load_step, hlater]
    cases party with
    | client => simp [step, Pipe.after, UInt64.ofNat_add]
    | socket => simp [step, Pipe.after, UInt64.ofNat_add]

/-- A relay is faithful both ways, however the reads are cut into chunks, in whatever order the
two ways take their turns and whatever else happens to the engine meanwhile. A way that no fault
awaits writes its stream in order and announces the end once, behind the last octet, and the link
has counted what was written. Each way comes to its end by its own turns, whatever has become of
the other. If the socket takes only so much of the client's stream, the link has counted as sent
the reads that were sent whole before the one that failed, and the way back is as faithful as
ever. -/
theorem run_faithful {c : Config} {runtime : Bool} {e₀ : Engine}
    (hbuild : Engine.build c runtime = .ok e₀) (past rest : List (Surroundings × Event))
    (hdials : (e₀.run (past ++ rest)).dials < UInt64.size) (r : Relay) (turns : List Party)
    (hknown : ((e₀.run past).links.link? r.link).isSome = true)
    (hpast : ∀ x ∈ past, x.2.carries r.link = false)
    (hrest : (rest.map (·.2)).filter (·.carries r.link) = (r.run turns).2)
    (hout : r.outward.Fresh) (hhome : r.homeward.Fresh)
    (hfaultless : r.homeward.Faultless) :
    let r' := (r.run turns).1
    ∃ l, (e₀.run (past ++ rest)).links.link? r.link = some l ∧
      (r.outward.turns ≤ turns.count .client → r'.outward.result.isSome = true) ∧
      (r.homeward.turns ≤ turns.count .socket → r'.homeward.result.isSome = true) ∧
      (r'.homeward.Delivers r.homeward.source.stream ∧
        l.received = .ofNat r'.homeward.sink.written.length) ∧
      (r.outward.Faultless → r'.outward.Delivers r.outward.source.stream ∧
        l.sent = .ofNat r'.outward.sink.written.length) ∧
      (∀ room fault, r.outward.sink.limit = some (room, fault) →
        room < r.outward.source.stream.length →
        ∃ done, r.outward.BreaksOff r'.outward room fault done ∧
          l.sent = .ofNat done.flatten.length) := by
  obtain ⟨-, rfl⟩ := Engine.build_eq_ok hbuild
  intro r'
  have h₀ := Engine.coherent_ofConfig c
  have hpastDials := Engine.dials_lt_of_append h₀.links.labelled hdials
  have h := h₀.run hpastDials
  have hnone := Engine.load_eq_zero hpast hpastDials
  rw [Engine.run_append] at hdials ⊢
  generalize (Engine.ofConfig c).run past = e at *
  obtain ⟨m, hm⟩ := Option.isSome_iff_exists.mp hknown
  obtain ⟨l, hl, -⟩ := Engine.link_persists (fun _ _ => trivial) h hm trivial hdials
  have hload : l.load = (.ofNat (r.outward.after (turns.count .client)).2,
      .ofNat (r.homeward.after (turns.count .socket)).2) := by
    calc l.load
      _ = (e.run rest).load r.link := (Engine.load_of_link hl).symm
      _ = (rest.map (·.2.load r.link)).sum := by
        rw [Engine.load_run h (.inl hknown) hdials, hnone, zero_add]
      _ = ((rest.map (·.2)).map (·.load r.link)).sum := by rw [List.map_map]; rfl
      _ = _ := by rw [← Event.sum_load_filter, hrest, sum_load_run]
  obtain ⟨hsent, hreceived⟩ := Prod.mk.inj hload
  have hr' : r' = _ := r.run_eq turns
  have houtward := (Pipe.Course.start hout.result).after (turns.count .client)
  have hhomeward := (Pipe.Course.start hhome.result).after (turns.count .socket)
  rw [Nat.zero_add] at houtward hhomeward
  rw [hr']
  refine ⟨l, hl, Pipe.isSome_result_after, Pipe.isSome_result_after, ?_, ?_, ?_⟩
  · obtain ⟨hdelivers, hcount⟩ := hhomeward.delivers hhome hfaultless
    exact ⟨hdelivers, by rw [hreceived, hcount]⟩
  · intro hall
    obtain ⟨hdelivers, hcount⟩ := houtward.delivers hout hall
    exact ⟨hdelivers, by rw [hsent, hcount]⟩
  · intro room fault hlimit hless
    obtain ⟨done, hbreaks, hcount⟩ := houtward.breaksOff hout hlimit hless
    exact ⟨done, hbreaks, by rw [hsent, hcount]⟩

/-- The client's side ends before the socket's, and a sweep comes in between. With room for all of
it, the five octets of the client arrive; with room for four, the first read does. The three
octets of the socket arrive either way. -/
theorem run_faithful_half_closed :
    let syn : Segment :=
      { source := ⟨⟨10, 0, 0, 5⟩, 51000⟩, destination := ⟨⟨93, 184, 216, 34⟩, 80⟩
        flags := { syn := true }, sequence := 100 }
    let past : List (Surroundings × Event) := [({}, .input syn.toBytes), ({}, .connected 1 7)]
    let relay (limit : Option (Nat × Fault)) : Relay :=
      { link := 1
        outward := { source := { chunks := [[1, 2, 3], [4, 5]] }, sink := { limit } }
        homeward := { source := { chunks := [[9], [8, 7]] } } }
    let turns : List Party := [.client, .socket, .client, .client, .socket, .socket]
    let rest (r : Relay) : List (Surroundings × Event) :=
      ({}, .sweep) :: (r.run turns).2.map ({ now := 100 }, ·)
    let fault : Fault := .host "broken pipe"
    let e (limit : Option (Nat × Fault)) := (Engine.ofConfig {}).run (past ++ rest (relay limit))
    let whole := ((relay none).run turns).1
    let broken := ((relay (some (4, fault))).run turns).1
    Engine.build {} true = .ok (Engine.ofConfig {}) ∧
      ((e none).load 1 = (5, 3) ∧ whole.outward.Delivers [1, 2, 3, 4, 5] ∧
        whole.homeward.Delivers [9, 8, 7]) ∧
      ((e (some (4, fault))).load 1 = (3, 3) ∧
        (∃ done, (relay (some (4, fault))).outward.BreaksOff broken.outward 4 fault done) ∧
        broken.homeward.Delivers [9, 8, 7]) := by
  intro syn past relay turns rest fault e whole broken
  have hbuild : Engine.build {} true = .ok (Engine.ofConfig {}) := rfl
  have hknown : (((Engine.ofConfig {}).run past).links.link? 1).isSome = true := by decide +kernel
  have hpast : ∀ x ∈ past, x.2.carries 1 = false := by decide +kernel
  have hout (limit : Option (Nat × Fault)) : (relay limit).outward.Fresh := ⟨rfl, rfl, rfl⟩
  have hhome (limit : Option (Nat × Fault)) : (relay limit).homeward.Fresh := ⟨rfl, rfl, rfl⟩
  have hfaultless (limit : Option (Nat × Fault)) : (relay limit).homeward.Faultless :=
    ⟨rfl, nofun, rfl⟩
  refine ⟨hbuild, ?_, ?_⟩
  · have hdials : (e none).dials < UInt64.size := by decide +kernel
    obtain ⟨l, -, -, -, ⟨hdown, -⟩, hup, -⟩ :=
      run_faithful hbuild past (rest (relay none)) hdials (relay none) turns hknown hpast
        (by decide +kernel) (hout none) (hhome none) (hfaultless none)
    exact ⟨by decide +kernel, (hup ⟨rfl, nofun, rfl⟩).1, hdown⟩
  · have hdials : (e (some (4, fault))).dials < UInt64.size := by decide +kernel
    obtain ⟨l, -, -, -, ⟨hdown, -⟩, -, hup⟩ :=
      run_faithful hbuild past (rest (relay (some (4, fault)))) hdials (relay (some (4, fault)))
        turns hknown hpast (by decide +kernel) (hout _) (hhome _) (hfaultless _)
    obtain ⟨done, hbreaks, -⟩ := hup 4 fault rfl (by decide)
    exact ⟨by decide +kernel, ⟨done, hbreaks⟩, hdown⟩

end Relay

end GuestNat
