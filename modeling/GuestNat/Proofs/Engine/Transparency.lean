import GuestNat.Proofs.Engine.Fragments
import GuestNat.Proofs.Reassembly.Delivery
import GuestNat.Proofs.Wire.RoundTrip

/-!
# Fragments have the effect of the whole

A datagram that arrives in fragments does to the engine what it would have done in one frame,
when the last of them arrives (`fragments_transparent`). Only the counters of what came in, of
fragments that waited and of datagrams that were put together tell the difference: what an engine
does with a datagram commutes with forgetting these.
-/
namespace GuestNat

/-- Two frames that are read alike: they differ in the header fields of fragmentation, identity
and life time at most. -/
structure Frame.Alike (f g : Frame) : Prop where
  protocol : g.protocol = f.protocol
  source : g.source = f.source
  destination : g.destination = f.destination
  payload : g.payload = f.payload
  isFragment : g.isFragment = f.isFragment

lemma Datagram.ofFrame?_congr {f g : Frame} (h : f.Alike g) (verify : Bool) :
    ofFrame? verify g = ofFrame? verify f := by
  simp only [ofFrame?, h.protocol, h.source, h.destination, h.payload, h.isFragment]

lemma IcmpMessage.ofFrame?_congr {f g : Frame} (h : f.Alike g) (verify : Bool) :
    ofFrame? verify g = ofFrame? verify f := by
  simp only [ofFrame?, h.protocol, h.source, h.destination, h.payload, h.isFragment]

/-- The fragments lie at multiples of eight octets if all but the last fill such. -/
lemma FragmentRun.offset_mod {start : Nat} {run : List Frame} (h : FragmentRun start run)
    (hstart : start % 8 = 0) (hunits : ∀ g ∈ run.dropLast, g.payload.length % 8 = 0) :
    ∀ g ∈ run, g.offset.toNat % 8 = 0 := by
  induction h with
  | last hoffset hmore => simpa [hoffset] using hstart
  | @more start f fs hoffset hmore hrest ih =>
    rw [List.dropLast_cons_of_ne_nil hrest.ne_nil, List.forall_mem_cons] at hunits
    rw [List.forall_mem_cons]
    have hnext : (start + f.payload.length) % 8 = 0 := by omega
    exact ⟨hoffset ▸ hstart, ih hnext hunits.2⟩

/-- The datagram was cut from a frame, at multiples of eight octets. -/
structure CutDatagram.IsCutOf (d : CutDatagram) (f : Frame) : Prop where
  key : d.key = .of f
  payload : joined d.pieces = f.payload
  units : ∀ g ∈ d.pieces.dropLast, g.payload.length % 8 = 0

namespace CutDatagram.IsCutOf

variable {d : CutDatagram} {f g : Frame}

lemma whole (h : d.IsCutOf f) (hf : f.isFragment = false) : f.Alike d.whole := by
  have hhead := d.keyed _ (List.head_mem d.run.ne_nil)
  rw [h.key] at hhead
  simp only [FragmentKey.of, FragmentKey.mk.injEq] at hhead
  obtain ⟨hprotocol, hsource, hdestination, -⟩ := hhead
  exact ⟨hprotocol, hsource, hdestination, h.payload, hf.symm⟩

lemma ofBytes?_toBytes (h : d.IsCutOf f) (hg : g ∈ d.pieces)
    (hf : f.protocol = .udp ∨ f.protocol = .icmp) (verify : Bool) :
    Frame.ofBytes? verify g.toBytes = some g ∧ g.protocol = f.protocol := by
  have hkey := d.keyed g hg
  rw [h.key] at hkey
  simp only [FragmentKey.of, FragmentKey.mk.injEq] at hkey
  have hend := d.end_le hg
  refine ⟨g.ofBytes?_toBytes verify (by omega) ?_ ?_, hkey.1⟩
  · exact d.run.offset_mod rfl h.units g hg
  · rw [hkey.1]
    rcases hf with hf | hf <;> rw [hf] <;> rfl

end CutDatagram.IsCutOf

namespace Reassembler

variable (r : Reassembler) (f : Frame) (key : FragmentKey) (now : Nat)

lemma erase_dropStale : (r.dropStale key now).groups.erase key = r.groups.erase key := by
  unfold dropStale
  split
  · split
    · exact Table.erase_erase ..
    · rfl
  · rfl

lemma erase_offer : (r.offer f now).1.groups.erase (.of f) = r.groups.erase (.of f) := by
  have ha := r.answers_offer f now
  generalize r.offer f now = result at ha ⊢
  cases ha with
  | whole | tooLong => rfl
  | noRoom | duplicate => exact r.erase_dropStale _ now
  | buffered => rw [Table.erase_insert, r.erase_dropStale]
  | complete => rw [Table.erase_erase, r.erase_dropStale]

end Reassembler

/-- Fragments that arrive, as a history of the reassembler. -/
def offersOf (arrivals : List (Surroundings × Frame)) : FragmentHistory :=
  arrivals.map fun (w, g) => (w.now, .offer g)

/-- Fragments that arrive, as a run of the engine. -/
def inputsOf (arrivals : List (Surroundings × Frame)) : List (Surroundings × Event) :=
  arrivals.map fun (w, g) => (w, .input g.toBytes)

/-- The pieces of a datagram arrive, each once and in any order, before the group that they begin
is stale. The group finds room, and none of its key waits already. -/
structure Reassembler.Receives (r : Reassembler) (d : CutDatagram)
    (arrivals : List (Surroundings × Frame)) : Prop where
  each : (arrivals.map Prod.snd).Perm d.pieces
  inTime : ∀ x ∈ arrivals.head?, ∀ y ∈ arrivals,
    x.1.now ≤ y.1.now ∧ y.1.now < x.1.now + r.timeout
  fresh : r.groups.get? d.key = none
  room : r.pending < r.capacity

lemma after_offers_concat (r : Reassembler) (seen : List (Surroundings × Frame))
    (w : Surroundings) (g : Frame) : r.after (offersOf (seen ++ [(w, g)])) =
      ((r.after (offersOf seen)).offer g w.now).1 := by
  simp [offersOf, Reassembler.after, Reassembler.step]

namespace Reassembler.Receives

variable {r : Reassembler} {d : CutDatagram} {arrivals seen todo : List (Surroundings × Frame)}
  {w : Surroundings} {g : Frame}

lemma mem_pieces (h : r.Receives d arrivals) : g ∈ arrivals.map Prod.snd ↔ g ∈ d.pieces :=
  h.each.mem_iff

lemma nodup (h : r.Receives d arrivals) : (arrivals.map Prod.snd).Nodup := by
  rw [h.each.nodup_iff]
  refine d.pairwise_offset.imp ?_
  rintro f _ hlt rfl
  exact UInt16.lt_irrefl _ hlt

lemma arrived_offers : (offersOf seen).arrived g = decide (g ∈ seen.map Prod.snd) := by
  have hoffers : (offersOf seen).map Prod.snd = (seen.map Prod.snd).map .offer := by
    simp [offersOf]
  have hinjective : Function.Injective FragmentEvent.offer := fun _ _ => FragmentEvent.offer.inj
  rw [FragmentHistory.arrived, hoffers, decide_eq_decide, List.mem_map_of_injective hinjective]

lemma arrived_eq_false_iff (h : r.Receives d (seen ++ todo)) (hg : g ∈ d.pieces) :
    (offersOf seen).arrived g = false ↔ g ∈ todo.map Prod.snd := by
  have hnodup := h.nodup
  rw [List.map_append, List.nodup_append] at hnodup
  rw [← h.mem_pieces, List.map_append, List.mem_append] at hg
  rw [arrived_offers, decide_eq_false_iff_not]
  constructor
  · exact fun hnew => hg.resolve_left hnew
  · exact fun htodo hseen => hnodup.2.2 g hseen g htodo rfl

/-- The group of the pieces that have arrived is not stale when another one arrives. -/
lemma lt_stale (h : r.Receives d (seen ++ todo)) {x : Surroundings × Frame} (hx : x ∈ todo) :
    ∀ t ∈ d.arrivals (offersOf seen), x.1.now < t + r.timeout := by
  intro t ht
  obtain ⟨⟨_, event⟩, hmem, rfl⟩ := List.mem_map.mp ht
  obtain ⟨y, hy, hevent⟩ := List.mem_map.mp (List.mem_filter.mp hmem).1
  obtain ⟨rfl, rfl⟩ := Prod.mk.inj hevent
  cases seen with
  | nil => cases hy
  | cons first rest =>
    have hfirst := h.inTime first rfl
    have hfirst' := (hfirst x (List.mem_append_right _ hx)).2
    have hy' := (hfirst y (List.mem_append_left _ hy)).1
    dsimp only
    omega

lemma finds_room (h : r.Receives d (seen ++ todo)) (hnil : d.arrivals (offersOf seen) = []) :
    (r.after (offersOf seen)).groups.size < r.capacity := by
  cases seen with
  | nil => exact h.room
  | cons first rest =>
    have hpiece : first.2 ∈ d.pieces := h.mem_pieces.mp (by simp)
    have harrived : (offersOf (first :: rest)).arrived first.2 = true := by
      rw [arrived_offers]
      simp
    exact absurd hnil (arrivals_ne_nil hpiece harrived)

/-- A piece that arrives is answered as it should be: the last one completes the datagram, and any
other waits. -/
lemma step (h : r.Receives d (seen ++ (w, g) :: todo)) (htracks : r.Tracks d (offersOf seen)) :
    ((r.after (offersOf seen)).offer g w.now).2 =
        (if todo = [] then .complete d.whole else .buffered) ∧
      r.Tracks d (offersOf (seen ++ [(w, g)])) := by
  have hg : g ∈ d.pieces := h.mem_pieces.mp (by simp)
  have hnew : (offersOf seen).arrived g = false := (h.arrived_eq_false_iff hg).mpr (by simp)
  obtain ⟨hanswer, hnext⟩ := htracks.offer hg ⟨g, hg, hnew⟩
    (h.lt_stale (x := (w, g)) (by simp)) h.finds_room
  have hoffers : offersOf (seen ++ [(w, g)]) = offersOf seen ++ [(w.now, .offer g)] :=
    List.map_append ..
  rw [hoffers]
  refine ⟨?_, hnext⟩
  rw [hanswer, CutDatagram.answer, if_neg (by simp [hnew])]
  have hnodup := h.nodup
  rw [List.map_append, List.map_cons, List.nodup_append, List.nodup_cons] at hnodup
  by_cases htodo : todo = []
  · subst htodo
    rw [if_pos rfl, if_neg]
    rintro ⟨f, hf, hne, hmissing⟩
    rw [h.arrived_eq_false_iff hf] at hmissing
    exact hne (by simpa using hmissing)
  · obtain ⟨x, hx⟩ := List.exists_mem_of_ne_nil todo htodo
    have hx' : x.2 ∈ todo.map Prod.snd := List.mem_map_of_mem hx
    have hpiece : x.2 ∈ d.pieces := h.mem_pieces.mp (by simp [hx'])
    rw [if_neg htodo, if_pos]
    refine ⟨x.2, hpiece, ?_, (h.arrived_eq_false_iff hpiece).mpr (by simp [hx'])⟩
    intro he
    exact hnodup.2.1.1 (he ▸ hx')

lemma erase_after (hkey : ∀ x ∈ seen, FragmentKey.of x.2 = d.key) :
    (r.after (offersOf seen)).groups.erase d.key = r.groups.erase d.key := by
  induction seen generalizing r with
  | nil => rfl
  | cons x rest ih =>
    rw [List.forall_mem_cons] at hkey
    have hoffers : r.after (offersOf (x :: rest)) =
        (r.offer x.2 x.1.now).1.after (offersOf rest) := rfl
    rw [hoffers, ih hkey.2, ← hkey.1, Reassembler.erase_offer]

lemma after_offers (h : r.Receives d arrivals) (htracks : r.Tracks d (offersOf arrivals)) :
    r.after (offersOf arrivals) = r := by
  have hkey : ∀ x ∈ arrivals, FragmentKey.of x.2 = d.key := fun x hx =>
    d.keyed _ (h.mem_pieces.mp (List.mem_map_of_mem hx))
  have hdone : ¬ d.Incomplete (offersOf arrivals) := by
    rintro ⟨f, hf, hmissing⟩
    rw [arrived_offers, decide_eq_false_iff_not] at hmissing
    exact hmissing (h.mem_pieces.mpr hf)
  have hgroups := erase_after (r := r) hkey
  rw [Table.erase_eq_self (htracks.absent (.inr hdone)), Table.erase_eq_self h.fresh] at hgroups
  have htimeout : (r.after (offersOf arrivals)).timeout = r.timeout := Reassembler.timeout_after
  have hcapacity : (r.after (offersOf arrivals)).capacity = r.capacity :=
    Reassembler.capacity_after
  generalize r.after (offersOf arrivals) = r' at hgroups htimeout hcapacity
  cases r'
  cases r
  simp_all

end Reassembler.Receives

namespace Engine

/-- The engine without the counters of what came in, of fragments that waited and of datagrams
that were put together. -/
def forgetArrivals (e : Engine) : Engine :=
  { e with
    counters := { e.counters with
      inbound := {}
      fragmentsBuffered := 0
      datagramsReassembled := 0 } }

def withReassembler (e : Engine) (reassembler : Reassembler) : Engine := { e with reassembler }

/-- What an engine does with a datagram that is whole. -/
def deliver (e : Engine) (w : Surroundings) (f : Frame) : Engine :=
  if f.protocol = .udp then e.processUdp w f else e.processIcmp w f

section Views

variable (e : Engine) (w : Surroundings)

lemma forgetArrivals_write (cause : FrameCause) (f : Frame) :
    (e.write w cause f).forgetArrivals = e.forgetArrivals.write w cause f := by
  unfold write
  split <;> rfl

lemma forgetArrivals_absorb (effects : List FlowEffect) :
    (e.absorb w effects).forgetArrivals = e.forgetArrivals.absorb w effects := by
  unfold absorb
  induction effects generalizing e with
  | nil => rfl
  | cons x rest ih =>
    rw [List.foldl_cons, List.foldl_cons, ih]
    cases x with
    | replied => rw [forgetArrivals_write]
    | _ => rfl

lemma forgetArrivals_processUdp (f : Frame) :
    (e.processUdp w f).forgetArrivals = e.forgetArrivals.processUdp w f := by
  have hconfig : e.forgetArrivals.config = e.config := rfl
  have hflows : e.forgetArrivals.flows = e.flows := rfl
  simp only [processUdp, hconfig, hflows]
  cases Datagram.ofFrame? e.config.verify f with
  | none => rfl
  | some d =>
    have habsorb := forgetArrivals_absorb { e with flows := (e.flows.send d w.now).1 } w
      (e.flows.send d w.now).2.2
    dsimp only
    split
    · exact habsorb
    · exact congrArg (count · .frameDropped) habsorb

lemma forgetArrivals_processIcmp (f : Frame) :
    (e.processIcmp w f).forgetArrivals = e.forgetArrivals.processIcmp w f := by
  have hconfig : e.forgetArrivals.config = e.config := rfl
  simp only [processIcmp, hconfig]
  cases IcmpMessage.ofFrame? e.config.verify f with
  | none => rfl
  | some m =>
    cases w.forwards with
    | none => rfl
    | some taken => cases taken <;> rfl

lemma forgetArrivals_deliver (f : Frame) :
    (e.deliver w f).forgetArrivals = e.forgetArrivals.deliver w f := by
  unfold deliver
  split
  · exact e.forgetArrivals_processUdp w f
  · exact e.forgetArrivals_processIcmp w f

lemma deliver_congr {f g : Frame} (h : f.Alike g) : e.deliver w g = e.deliver w f := by
  simp only [deliver, processUdp, processIcmp, h.protocol, Datagram.ofFrame?_congr h,
    IcmpMessage.ofFrame?_congr h]

/-- What a datagram in octets does to an engine, but for the counters, depends on what the
reassembler makes of it. -/
lemma forgetArrivals_input {bytes : Bytes} {f : Frame}
    (hread : Frame.ofBytes? e.config.verify bytes = some f)
    (hprotocol : f.protocol = .udp ∨ f.protocol = .icmp) :
    (e.input w bytes).forgetArrivals =
      let offered := e.forgetArrivals.withReassembler (e.reassembler.offer f w.now).1
      match (e.reassembler.offer f w.now).2 with
      | .whole => offered.deliver w f
      | .buffered => offered
      | .complete whole => offered.deliver w whole
      | .rejected => offered.count .frameDropped := by
  have hinput : e.input w bytes =
      (e.count (·.record .inbound f.protocol bytes.length)).processDatagram w f := by
    simp only [input, hread, processFrame]
    rcases hprotocol with hf | hf <;> simp only [hf]
  rw [hinput]
  unfold processDatagram
  dsimp only
  have hreassembler : (e.count (·.record .inbound f.protocol bytes.length)).reassembler =
    e.reassembler := rfl
  rw [hreassembler]
  cases (e.reassembler.offer f w.now).2 with
  | whole => exact forgetArrivals_deliver ..
  | buffered => rfl
  | complete whole => exact forgetArrivals_deliver ..
  | rejected => rfl

end Views

section Runs

variable {e e' : Engine} {d : CutDatagram} {f : Frame}

lemma run_inputs_cons (w : Surroundings) (g : Frame) (rest : List (Surroundings × Frame)) :
    e.run (inputsOf ((w, g) :: rest)) = (e.input w g.toBytes).run (inputsOf rest) := by
  rw [inputsOf, List.map_cons, run_cons]
  rfl

/-- The pieces of a datagram that are still to come complete it, and it is delivered with the
last. -/
lemma run_inputs (hcut : d.IsCutOf f) (hprotocol : f.protocol = .udp ∨ f.protocol = .icmp)
    {arrivals seen todo : List (Surroundings × Frame)} (h : e.reassembler.Receives d arrivals)
    (hsplit : arrivals = seen ++ todo) (htracks : e.reassembler.Tracks d (offersOf seen))
    (hsame : e'.forgetArrivals =
      e.forgetArrivals.withReassembler (e.reassembler.after (offersOf seen))) :
    ∀ last ∈ todo.getLast?,
      (e'.run (inputsOf todo)).forgetArrivals =
        (e.forgetArrivals.withReassembler
          (e.reassembler.after (offersOf arrivals))).deliver last.1 d.whole ∧
      e.reassembler.Tracks d (offersOf arrivals) := by
  induction todo generalizing e' seen with
  | nil => nofun
  | cons x rest ih =>
    obtain ⟨w, g⟩ := x
    have hg : g ∈ d.pieces := h.mem_pieces.mp (by simp [hsplit])
    obtain ⟨hread, hgprotocol⟩ := hcut.ofBytes?_toBytes hg hprotocol e'.config.verify
    rw [← hgprotocol] at hprotocol
    have hinput := e'.forgetArrivals_input w hread hprotocol
    have hreassembler : e'.reassembler = e.reassembler.after (offersOf seen) :=
      congrArg (·.reassembler) hsame
    obtain ⟨hanswer, hnext⟩ := (hsplit ▸ h).step htracks
    rw [hsame, hreassembler, ← after_offers_concat, hanswer] at hinput
    rw [List.append_cons] at hsplit
    rw [run_inputs_cons]
    intro last hlast
    cases rest with
    | nil =>
      rw [List.append_nil] at hsplit
      obtain rfl := Option.some.inj hlast
      rw [← hsplit] at hinput hnext
      exact ⟨hinput, hnext⟩
    | cons y rest =>
      rw [if_neg (List.cons_ne_nil y rest)] at hinput
      rw [List.getLast?_cons_cons] at hlast
      exact ih hsplit hnext hinput last hlast

end Runs

/-- In every state that a run leads to, a datagram of UDP or ICMP that was cut into fragments has
the effect, when the last of them arrives, that it would have in one frame then: nothing but the
counters of what came in and of fragments tells the difference. The fragments may arrive in any
order, within the time that fragments have, if no group of their key waits and there is room for
one. -/
theorem fragments_transparent {c : Config} {e₀ : Engine} (hbuild : build c true = .ok e₀)
    (events : List (Surroundings × Event)) :
    let e := e₀.run events
    e.reassembler.timeout = c.fragmentTimeout ∧
    ∀ (f : Frame) (d : CutDatagram) (arrivals : List (Surroundings × Frame)),
      f.protocol = .udp ∨ f.protocol = .icmp → f.isFragment = false → d.IsCutOf f →
      e.reassembler.Receives d arrivals →
      ∀ last ∈ arrivals.getLast?,
        (e.run (inputsOf arrivals)).forgetArrivals =
          (e.input last.1 f.toBytes).forgetArrivals := by
  intro e
  refine ⟨(fragmentLimits_run hbuild events).1, ?_⟩
  intro f d arrivals hprotocol hf hcut h last hlast
  have hstart : e.reassembler.Tracks d (offersOf []) :=
    ⟨fun _ => h.fresh, fun hne => absurd rfl hne⟩
  have hsame : e.forgetArrivals =
      e.forgetArrivals.withReassembler (e.reassembler.after (offersOf [])) := rfl
  obtain ⟨hrun, htracks⟩ := run_inputs hcut hprotocol h rfl hstart hsame last hlast
  rw [hrun, h.after_offers htracks, deliver_congr _ _ (hcut.whole hf)]
  have hoffset : f.offset = 0 := by
    simp only [Frame.isFragment, Bool.or_eq_false_iff] at hf
    simpa using hf.2
  have hread : Frame.ofBytes? e.config.verify f.toBytes = some f := by
    refine f.ofBytes?_toBytes _ (hcut.payload ▸ d.fits) (by rw [hoffset]; rfl) ?_
    rcases hprotocol with hp | hp <;> rw [hp] <;> rfl
  have hoffer : e.reassembler.offer f last.1.now = (e.reassembler, .whole) := by
    simp [Reassembler.offer, hf]
  rw [e.forgetArrivals_input last.1 hread hprotocol, hoffer]

/-- The three fragments of a datagram arrive, the last of them first and in time. -/
theorem fragments_transparent_last_first :
    let datagram : Datagram :=
      { source := ⟨⟨10, 0, 0, 5⟩, 5000⟩, destination := ⟨⟨93, 184, 216, 34⟩, 53⟩
        payload := [1, 2, 3, 4, 5, 6, 7, 8, 9, 10] }
    let f := datagram.toFrame
    let arrivals : List (Surroundings × Frame) :=
      [({ now := 5 }, f.slice 16 18), ({ now := 7 }, f.slice 0 8), ({ now := 1004 }, f.slice 8 16)]
    let e := (ofConfig {}).run [({}, .start)]
    build {} true = .ok (ofConfig {}) ∧
      (e.run (inputsOf arrivals)).forgetArrivals =
        (e.input { now := 1004 } f.toBytes).forgetArrivals ∧
      (e.run (inputsOf arrivals)).outbox = e.outbox ++
        [.flow (.opened 0), .flow (.queued 0 datagram.payload datagram.destination)] := by
  intro datagram f arrivals e
  have hbuild : build {} true = .ok (ofConfig {}) := rfl
  let d : CutDatagram :=
    { key := .of f
      pieces := [f.slice 0 8, f.slice 8 16, f.slice 16 18]
      several := by decide
      keyed := by decide
      nonempty := by decide +kernel
      run := .more rfl rfl (.more rfl rfl (.last rfl rfl))
      fits := by decide +kernel }
  have hcut : d.IsCutOf f := ⟨rfl, by decide +kernel, by decide +kernel⟩
  have hreceives : e.reassembler.Receives d arrivals :=
    { each := by decide +kernel
      inTime := by decide +kernel
      fresh := rfl
      room := by decide }
  obtain ⟨-, htransparent⟩ := fragments_transparent hbuild [({}, .start)]
  have hsame := htransparent f d arrivals (.inl rfl) rfl hcut hreceives
    ({ now := 1004 }, f.slice 8 16) rfl
  exact ⟨hbuild, hsame, by decide +kernel⟩

end Engine

end GuestNat
