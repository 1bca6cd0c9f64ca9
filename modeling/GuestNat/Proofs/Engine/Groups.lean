import Mathlib.Data.UInt
import GuestNat.Proofs.Engine.Fragments
import GuestNat.Proofs.Reassembly.Accounting

/-!
# The counters of fragment groups

An engine counts the groups that became a datagram and those that a sweep discarded as stale
(`groupCounters_run`). A stale group that a later fragment of its datagram discards before a sweep
gets to it is counted nowhere, so the counters and the groups that wait account for the groups that
were opened unless there were such (`groups_accounted`, `late_fragment_uncounted`).
-/
namespace GuestNat

/-- The counters of datagrams that were put together and of groups that expired, after what was
done to groups. -/
def GroupTally.book (t : GroupTally) (c : UInt64 × UInt64) : UInt64 × UInt64 :=
  (c.1 + .ofNat t.completed, c.2 + .ofNat t.swept)

@[simp] theorem GroupTally.book_zero (c : UInt64 × UInt64) : GroupTally.book {} c = c := by
  simp [book]

lemma GroupTally.book_nil (r : Reassembler) (c : UInt64 × UInt64) : c = (r.tally []).book c :=
  (book_zero c).symm

lemma GroupTally.book_add (s t : GroupTally) (c : UInt64 × UInt64) :
    (s.add t).book c = t.book (s.book c) := by
  simp only [book, add, UInt64.ofNat_add, UInt64.add_assoc]

/-- Of what an offer does, only a datagram that is put together is booked. -/
lemma GroupTally.book_offer (r : Reassembler) (f : Frame) (now : Nat) (c : UInt64 × UInt64) :
    (r.tallyOf now (.offer f)).book c =
      if (r.offer f now).2.completes then (c.1 + 1, c.2) else c := by
  simp only [Reassembler.tallyOf, book]
  cases (r.offer f now).2.completes <;> simp

namespace Engine

section Operations

variable (e : Engine) (w : Surroundings)

lemma groupCounters_deliver (f : Frame) :
    (if f.protocol = .udp then e.processUdp w f else e.processIcmp w f).groupCounters =
      e.groupCounters := by
  split
  · unfold processUdp
    split
    · rfl
    · dsimp only
      split <;> exact (linkWork_absorb ..).groupCounters
  · exact (e.linkWork_processIcmp w f).groupCounters

lemma groupCounters_start : (e.start w).1.groupCounters = e.groupCounters := by
  unfold start
  split
  · rfl
  · dsimp only
    split <;> rfl

lemma groupCounters_stop : (e.stop w).1.groupCounters = e.groupCounters := by
  unfold stop
  split
  · rfl
  · exact (linkWork_absorb ..).groupCounters

lemma groupCounters_processDatagram (f : Frame) : (e.processDatagram w f).groupCounters =
    (e.reassembler.tallyOf w.now (.offer f)).book e.groupCounters := by
  rw [GroupTally.book_offer]
  unfold processDatagram
  dsimp only
  split
  · rename_i hoffer
    rw [hoffer]
    exact groupCounters_deliver ..
  · rename_i hoffer
    rw [hoffer]
    rfl
  · rename_i whole hoffer
    rw [hoffer]
    exact groupCounters_deliver ..
  · rename_i hoffer
    rw [hoffer]
    rfl

lemma groupCounters_input (bytes : Bytes) : (e.input w bytes).groupCounters =
    (e.reassembler.tally (e.fragmentEvents w (.input bytes))).book e.groupCounters := by
  rcases e.input_fragments_cases w bytes with ⟨d, f, hread, heq, hevents⟩ | ⟨h, hevents⟩
  · rw [heq, hevents, groupCounters_processDatagram, hread.groupCounters,
      hread.linksOnly.reassembler]
    rfl
  · rw [hevents, h.groupCounters]
    exact GroupTally.book_nil ..

lemma groupCounters_sweep : (e.sweep w w.now).1.groupCounters =
    (e.reassembler.tallyOf w.now .sweep).book e.groupCounters := by
  have hlinks := e.linkWork_sweepLinks w.now e.links.live
  have hcounters := hlinks.groupCounters
  have hreassembler := hlinks.linksOnly.reassembler
  rw [sweep, sweepIn]
  generalize e.sweepLinks w.now e.links.live = swept at hcounters hreassembler ⊢
  rw [← hcounters, ← hreassembler]
  refine (linkWork_absorb ..).groupCounters.trans ?_
  exact Prod.ext (UInt64.add_zero _).symm rfl

/-- What an event does to the counters is what it does to groups. -/
theorem groupCounters_step (event : Event) : (e.step w event).groupCounters =
    (e.reassembler.tally (e.fragmentEvents w event)).book e.groupCounters := by
  have hnil := GroupTally.book_nil e.reassembler e.groupCounters
  cases event with
  | input bytes => exact e.groupCounters_input w bytes
  | connected id socket => exact (e.linkWork_connected w id socket).groupCounters.trans hnil
  | dialFailed id => exact (e.linkWork_dialFailed w id).groupCounters.trans hnil
  | flow event => exact (linkWork_absorb ..).groupCounters.trans hnil
  | carried id sent received => exact hnil
  | sweep => exact e.groupCounters_sweep w
  | start => exact (e.groupCounters_start w).trans hnil
  | stop =>
    refine (e.groupCounters_stop w).trans ?_
    cases hrunning : e.running with
    | false => simpa only [fragmentEvents, hrunning, Bool.false_eq_true, if_false] using hnil
    | true =>
      simp only [fragmentEvents, hrunning, if_true]
      exact Prod.ext (UInt64.add_zero _).symm (UInt64.add_zero _).symm

end Operations

/-- Over a run the counters say what became of groups. -/
theorem groupCounters_run (e : Engine) (events : List (Surroundings × Event)) :
    (e.run events).groupCounters =
      (e.reassembler.tally (e.fragmentHistory events)).book e.groupCounters := by
  induction events generalizing e with
  | nil => exact GroupTally.book_nil ..
  | cons x rest ih =>
    rw [run_cons, ih, groupCounters_step, reassembler_step, fragmentHistory,
      Reassembler.tally_append, GroupTally.book_add]

/-- Without a stop the reassembler is not cleared. -/
lemma fragmentHistory_ne_clear (e : Engine) {events : List (Surroundings × Event)}
    (hstop : ∀ x ∈ events, x.2 ≠ .stop) : ∀ x ∈ e.fragmentHistory events, x.2 ≠ .clear := by
  induction events generalizing e with
  | nil => simp [fragmentHistory]
  | cons x rest ih =>
    obtain ⟨hx, hrest⟩ := List.forall_mem_cons.mp hstop
    rw [fragmentHistory, List.forall_mem_append]
    refine ⟨fun y hy => ?_, ih _ hrest⟩
    unfold fragmentEvents at hy
    grind

/-- Of the groups that were opened, each became a datagram, was discarded by a sweep, was discarded
by a fragment that came too late for it, or waits. The counters hold the first and the second kind.
So they and the groups that wait account for all, as far as a counter can tell, exactly if no
fragment came too late. -/
theorem groups_accounted (c : Config) (events : List (Surroundings × Event))
    (hstop : ∀ x ∈ events, x.2 ≠ .stop) :
    let e := (ofConfig c).run events
    let groups := (ofConfig c).reassembler.tally ((ofConfig c).fragmentHistory events)
    groups.opened =
        groups.completed + groups.swept + groups.overtaken + e.reassembler.pending ∧
      e.counters.datagramsReassembled = .ofNat groups.completed ∧
      e.counters.groupsExpired = .ofNat groups.swept ∧
      (UInt64.ofNat groups.opened = e.counters.datagramsReassembled + e.counters.groupsExpired +
          .ofNat e.reassembler.pending ↔ UInt64.ofNat groups.overtaken = 0) := by
  intro e groups
  have hopened : groups.opened =
      groups.completed + groups.swept + groups.overtaken + e.reassembler.pending := by
    have hcleared : groups.cleared = 0 :=
      Reassembler.cleared_tally _ (fragmentHistory_ne_clear _ hstop)
    have hpending : e.reassembler.pending + groups.completed + groups.swept + groups.overtaken +
        groups.cleared = (ofConfig c).reassembler.pending + groups.opened := by
      rw [show e.reassembler = _ from reassembler_run _ events]
      exact Reassembler.pending_after ..
    have hnone : (ofConfig c).reassembler.pending = 0 := rfl
    omega
  have hcounters : e.groupCounters = groups.book (ofConfig c).groupCounters :=
    groupCounters_run ..
  have hcompleted : e.counters.datagramsReassembled = .ofNat groups.completed :=
    (congrArg Prod.fst hcounters).trans (UInt64.zero_add _)
  have hswept : e.counters.groupsExpired = .ofNat groups.swept :=
    (congrArg Prod.snd hcounters).trans (UInt64.zero_add _)
  refine ⟨hopened, hcompleted, hswept, ?_⟩
  rw [hcompleted, hswept, hopened]
  simp only [UInt64.ofNat_add]
  generalize UInt64.ofNat groups.completed + UInt64.ofNat groups.swept = counted
  rw [UInt64.add_assoc, UInt64.add_comm (.ofNat groups.overtaken), ← UInt64.add_assoc]
  exact add_eq_left

/-- The four kinds of groups, one of each. -/
theorem groups_accounted_each_kind :
    let piece (id : UInt16) (offset : UInt16) (more : Bool) : Event :=
      .input (Frame.toBytes
        { source := ⟨10, 0, 0, 5⟩, destination := ⟨93, 184, 216, 34⟩, protocol := .icmp
          identification := id, offset, moreFragments := more, payload := .replicate 8 0 })
    let events : List (Surroundings × Event) :=
      [({}, piece 1 0 true), ({}, piece 1 8 false), ({}, piece 2 0 true),
        ({ now := 1000 }, piece 2 8 true), ({ now := 2000 }, .sweep),
        ({ now := 2000 }, piece 3 0 true)]
    let e := (ofConfig {}).run events
    let groups := (ofConfig {}).reassembler.tally ((ofConfig {}).fragmentHistory events)
    (∀ x ∈ events, x.2 ≠ .stop) ∧ groups = ⟨4, 1, 1, 1, 0⟩ ∧ e.reassembler.pending = 1 ∧
      e.counters.datagramsReassembled = 1 ∧ e.counters.groupsExpired = 1 := by
  intro piece events
  have hstop : ∀ x ∈ events, x.2 ≠ .stop := by decide +kernel
  have hgroups : (ofConfig {}).reassembler.tally ((ofConfig {}).fragmentHistory events) =
      ⟨4, 1, 1, 1, 0⟩ := by decide +kernel
  obtain ⟨hopened, hcompleted, hswept, -⟩ := groups_accounted {} events hstop
  rw [hgroups] at hopened hcompleted hswept
  dsimp only at hopened hcompleted hswept ⊢
  exact ⟨hstop, hgroups, by omega, hcompleted, hswept⟩

/-- A fragment comes when the group that it belongs to has just become stale. It discards that
group and opens another, and only the other one is accounted for. -/
theorem late_fragment_uncounted :
    let piece (offset : UInt16) : Event :=
      .input (Frame.toBytes
        { source := ⟨10, 0, 0, 5⟩, destination := ⟨93, 184, 216, 34⟩, protocol := .udp
          identification := 7, offset, moreFragments := true, payload := [1, 2, 3, 4, 5, 6, 7, 8] })
    let events : List (Surroundings × Event) := [({}, piece 0), ({ now := 1000 }, piece 8)]
    let e := (ofConfig {}).run events
    let groups := (ofConfig {}).reassembler.tally ((ofConfig {}).fragmentHistory events)
    groups.opened = 2 ∧ e.counters.datagramsReassembled = 0 ∧ e.counters.groupsExpired = 0 ∧
      e.reassembler.pending = 1 ∧
      UInt64.ofNat groups.opened ≠ e.counters.datagramsReassembled + e.counters.groupsExpired +
        .ofNat e.reassembler.pending := by
  decide +kernel

end Engine

end GuestNat
