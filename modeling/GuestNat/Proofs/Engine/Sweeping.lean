import GuestNat.Proofs.Engine.Events

/-!
# What a sweep makes of each link

A sweep visits every live link once, and what it makes of one depends on that link and the time
alone: the link stays as it is, loses its socket, or leaves the table. Visiting another link
`Keeps` it, so in whatever order a sweep visits the live links, each ends as `Link.swept` says
(`link?_sweepIn`).
-/
namespace GuestNat

/-- A live link after a sweep at a time. -/
def Link.swept (c : Config) (now : Nat) (l : Link) : Link :=
  match c.verdict now l with
  | .keep => l
  | .close => l.dispose
  | .finalize =>
    let l' := (l.beginFinal now).detach
    if c.maxFinal ≤ now - l.finalSince.getD now then l'.dispose else l'

/-- A link is live if and only if the index by 4-tuple leads to it. -/
lemma LinkTable.mem_live_iff {t : LinkTable} {id : LinkId} :
    id ∈ t.live ↔ ∃ k, t.byTuple.get? k = some id := Table.mem_values_iff

namespace Engine

/-- The link of an identity is known as before, and is live if it was. -/
structure Keeps (e e' : Engine) (id : LinkId) : Prop where
  link : e'.links.link? id = e.links.link? id
  tuple : ∀ k, e.links.byTuple.get? k = some id → e'.links.byTuple.get? k = some id

namespace Keeps

variable {e e' e'' : Engine} {id : LinkId}

lemma refl (e : Engine) : e.Keeps e id := ⟨rfl, fun _ hk => hk⟩

lemma trans (h : e.Keeps e' id) (h' : e'.Keeps e'' id) : e.Keeps e'' id :=
  ⟨h'.link.trans h.link, fun k hk => h'.tuple k (h.tuple k hk)⟩

end Keeps

section Visits

variable {e : Engine} {id j : LinkId} {l : Link} (now : Nat)

lemma keeps_closeLink (hlab : e.links.Labelled) (hne : id ≠ j) :
    e.Keeps (e.closeLink j).1 id := by
  rcases e.closeLink_cases j with hsame | ⟨m, hm, hmk, hclosed⟩
  · rw [hsame]
    exact .refl e
  · obtain rfl := hlab j m hm
    rw [hclosed]
    constructor
    · exact (LinkTable.link?_drop m id).trans (if_neg hne)
    · intro k hk
      refine (LinkTable.byTuple_drop m k).trans ((if_neg ?_).trans hk)
      rintro rfl
      exact hne (Option.some.inj (hk.symm.trans hmk))

lemma keeps_sweepLink (hlab : e.links.Labelled) (hne : id ≠ j) :
    e.Keeps (e.sweepLink now j).1 id := by
  refine (sweepLink_induction (P := fun d => e.Relinks d ∧ e.Keeps d id) e j
    ⟨.refl e, .refl e⟩ (fun m hm _ => ?_) fun d h => ?_).2
  · obtain rfl := hlab j m hm
    exact ⟨e.relinks_finalize hm now,
      ⟨(link?_modifyLink hm _ id).trans (if_neg hne), fun _ hk => hk⟩⟩
  · exact ⟨h.1.trans (d.relinks_closeLink j), h.2.trans (keeps_closeLink (h.1.labelled hlab) hne)⟩

lemma sweepLinks_eq_foldl (e : Engine) (order : List LinkId) :
    (e.sweepLinks now order).1 = order.foldl (fun e id => (e.sweepLink now id).1) e :=
  (List.foldl_hom Prod.fst fun _ _ => rfl).symm

lemma sweepLinks_cons (e : Engine) (j : LinkId) (rest : List LinkId) :
    (e.sweepLinks now (j :: rest)).1 = ((e.sweepLink now j).1.sweepLinks now rest).1 := by
  rw [sweepLinks_eq_foldl, sweepLinks_eq_foldl, List.foldl_cons]

lemma keeps_sweepLinks (hlab : e.links.Labelled) {order : List LinkId} (hid : id ∉ order) :
    e.Keeps (e.sweepLinks now order).1 id := by
  induction order generalizing e with
  | nil => exact .refl e
  | cons j rest ih =>
    rw [List.mem_cons, not_or] at hid
    rw [sweepLinks_cons]
    have hlab' := (e.relinks_sweepLink hlab now j).labelled hlab
    exact (keeps_sweepLink now hlab hid.1).trans (ih hlab' hid.2)

lemma link?_closeLink (hl : e.links.link? l.id = some l)
    (hk : e.links.byTuple.get? l.key = some l.id) :
    (e.closeLink l.id).1.links.link? l.id = some l.dispose := by
  simp only [closeLink, LinkTable.closeLink?_eq hl hk]
  refine (LinkTable.link?_drop l l.id).trans ?_
  rw [if_pos rfl, hl]
  rfl

lemma link?_sweepLink (hl : e.links.link? l.id = some l)
    (hk : e.links.byTuple.get? l.key = some l.id) :
    (e.sweepLink now l.id).1.links.link? l.id = some (l.swept e.config now) := by
  unfold sweepLink Link.swept
  rw [hl]
  dsimp only
  cases e.config.verdict now l with
  | keep => exact hl
  | close => exact link?_closeLink hl hk
  | finalize =>
    have hfinal : (e.finalize now l).1.links.link? l.id = some (l.beginFinal now).detach :=
      (link?_modifyLink hl _ l.id).trans (if_pos rfl)
    dsimp only [finalize] at hfinal ⊢
    by_cases hover : e.config.maxFinal ≤ now - l.finalSince.getD now
    · simp only [hover, decide_true, if_true]
      exact link?_closeLink (l := (l.beginFinal now).detach) hfinal hk
    · simp only [hover, decide_false, Bool.false_eq_true, if_false]
      exact hfinal

lemma link?_sweepLinks (hlab : e.links.Labelled) {order : List LinkId} (horder : order.Nodup)
    (hid : l.id ∈ order) (hl : e.links.link? l.id = some l)
    (hk : e.links.byTuple.get? l.key = some l.id) :
    (e.sweepLinks now order).1.links.link? l.id = some (l.swept e.config now) := by
  induction order generalizing e with
  | nil => cases hid
  | cons j rest ih =>
    obtain ⟨hj, hrest⟩ := List.nodup_cons.mp horder
    have hrelinks := e.relinks_sweepLink hlab now j
    have hlab' := hrelinks.labelled hlab
    rw [sweepLinks_cons]
    by_cases hne : l.id = j
    · -- The link is visited now, and the rest of the order does not come back to it.
      obtain rfl := hne
      rw [(keeps_sweepLinks now hlab' hj).link]
      exact link?_sweepLink now hl hk
    · have hkeeps := keeps_sweepLink now hlab hne
      rw [← hrelinks.config]
      exact ih hlab' hrest ((List.mem_cons.mp hid).resolve_left hne) (hkeeps.link.trans hl)
        (hkeeps.tuple l.key hk)

end Visits

/-- A link that is known is live until it is closed. -/
lemma Coherent.mem_live_iff {e : Engine} (h : e.Coherent) {l : Link}
    (hl : e.links.link? l.id = some l) : l.id ∈ e.links.live ↔ l.closed = false := by
  rw [h.consistent.open_iff l.id l hl, LinkTable.mem_live_iff]
  refine ⟨fun ⟨k, hk⟩ => ?_, fun hk => ⟨l.key, hk⟩⟩
  obtain ⟨m, hm, rfl, -⟩ := h.consistent.tuple k l.id hk
  obtain rfl := Option.some.inj (hl.symm.trans hm)
  exact hk

/-- In whatever order a sweep visits the live links, each of them ends as it does on its own, and
no other link changes. -/
theorem link?_sweepIn {e : Engine} (h : e.Coherent) {order : List LinkId}
    (horder : order.Perm e.links.live) (w : Surroundings) (now : Nat) (id : LinkId) :
    (sweepIn order e w now).1.links.link? id =
      (e.links.link? id).map fun l => if l.closed then l else l.swept e.config now := by
  have hlinks : (sweepIn order e w now).1.links = (e.sweepLinks now order).1.links :=
    (spares_absorb ..).links
  rw [hlinks]
  cases hl : e.links.link? id with
  | none =>
    rw [(keeps_sweepLinks now h.links.labelled ?_).link, hl, Option.map_none]
    rw [horder.mem_iff, LinkTable.mem_live_iff]
    rintro ⟨k, hk⟩
    obtain ⟨l, hl', -⟩ := h.consistent.tuple k id hk
    cases hl.symm.trans hl'
  | some l =>
    obtain rfl := h.id_eq hl
    have hlive : l.id ∈ order ↔ l.closed = false := by rw [horder.mem_iff, h.mem_live_iff hl]
    cases hclosed : l.closed with
    | true =>
      have hid : l.id ∉ order := by simp [hlive, hclosed]
      simp only [(keeps_sweepLinks now h.links.labelled hid).link, hl, Option.map_some, hclosed,
        if_true]
    | false =>
      have hk := (h.consistent.open_iff l.id l hl).mp hclosed
      have horder' : order.Nodup := horder.nodup_iff.mpr h.consistent.live_nodup
      simp only [link?_sweepLinks now h.links.labelled horder' (hlive.mpr hclosed) hl hk,
        Option.map_some, hclosed, Bool.false_eq_true, if_false]

lemma link?_step_sweep {e : Engine} {l : Link} (w : Surroundings) (h : e.Coherent)
    (hl : e.links.link? l.id = some l) (hopen : l.closed = false) :
    (e.step w .sweep).links.link? l.id = some (l.swept e.config w.now) := by
  change (sweepIn e.links.live e w w.now).1.links.link? l.id = _
  rw [link?_sweepIn h (.refl _), hl, Option.map_some, hopen]
  rfl

end Engine

end GuestNat
