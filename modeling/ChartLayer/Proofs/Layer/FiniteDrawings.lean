import ChartLayer.Proofs.Layer.Drawn
import ChartLayer.Proofs.Zone.Accounts

/-!
# Only finite prices are drawn, but for levels

A surface has no place for NaN or an infinity, and each family of marks is checked for finite prices
when it is delivered. What is drawn is not what was checked. For zones and pools the way between
both is harmless: a zone is drawn where it was frozen, a cluster from the lowest to the highest of
its zones, a pool with its edges in order. A level is put on its tick after the check, and the
multiple of the tick can lie beyond the greatest double.

* `KeepsFinite.answer`: the geometry that a selector keeps is finite, and so are the bands it shows.
* `finite_invariant`: so what a layer knows can be drawn, after any commands.
* `finite_iff_levels_finite`: and all drawings are finite exactly if the levels on their ticks are.
* `level_drawn_beyond_all_prices`: a level that is not.
-/

namespace ChartLayer

open Quantity (larger smaller)

/-! ## Drawings -/

/-- Top and bottom of a drawing are absent or finite. -/
def Drawing.hasFinitePrices (d : Drawing) : Bool :=
  d.extent.top.all Float.isFinite && d.extent.bottom.all Float.isFinite

/-- Equal doubles are finite together. -/
theorem isFinite_eq_of_beq {x y : Float} (h : (x == y) = true) : x.isFinite = y.isFinite := by
  have hdef : (x == y) = (x.toModel.unpack.compare y.toModel.unpack == some .eq) := rfl
  rw [hdef, beq_iff_eq] at h
  have hnumbers : IsNumber x ∧ IsNumber y := by
    by_contra hnan
    rw [compare_of_nan hnan] at h
    cases h
  rw [compare_units hnumbers.1 hnumbers.2, Option.some_inj, compare_eq_iff_eq] at h
  rw [Bool.eq_iff_iff, isFinite_iff, isFinite_iff, h]
  exact and_congr_left' (iff_of_true hnumbers.1 hnumbers.2)

theorem Drawing.all_isFinite_of_samePrice {x y : Option Float} (h : samePrice x y = true) :
    x.all Float.isFinite = y.all Float.isFinite := by
  cases x with
  | none =>
    cases y with
    | none => rfl
    | some y => cases h
  | some x =>
    cases y with
    | none => cases h
    | some y => exact isFinite_eq_of_beq h

/-- A drawing that need not be drawn anew is as finite as the one wanted. -/
theorem Drawing.LooksLike.hasFinitePrices_eq {a b : Drawing} (h : a.LooksLike b) :
    a.hasFinitePrices = b.hasFinitePrices := by
  rcases h with rfl | hsame
  · rfl
  · unfold sameAs at hsame
    simp only [Bool.and_eq_true] at hsame
    obtain ⟨⟨⟨⟨⟨⟨⟨-, htop⟩, hbottom⟩, -⟩, -⟩, -⟩, -⟩, -⟩ := hsame
    unfold hasFinitePrices
    rw [all_isFinite_of_samePrice htop, all_isFinite_of_samePrice hbottom]

theorem Drawing.hasFinitePrices_ofPool {p : Pool} (h : p.isFinite = true) :
    (ofPool p).hasFinitePrices = true := by
  obtain ⟨htop, hbottom⟩ := Bool.and_eq_true_iff.mp h
  have htopNumber := IsNumber.of_isFinite htop
  have hbottomNumber := IsNumber.of_isFinite hbottom
  refine Bool.and_eq_true_iff.mpr ⟨?_, ?_⟩
  · change p.highEdge.isFinite = true
    unfold Pool.highEdge
    rcases (larger_spec htopNumber hbottomNumber).1 with hedge | hedge <;> rw [hedge]
    · exact htop
    · exact hbottom
  · change p.lowEdge.isFinite = true
    unfold Pool.lowEdge
    rcases (smaller_spec htopNumber hbottomNumber).1 with hedge | hedge <;> rw [hedge]
    · exact htop
    · exact hbottom

/-- A level is drawn as a line at its price. -/
theorem Drawing.hasFinitePrices_ofLevel (level : Level) :
    (ofLevel level).hasFinitePrices = level.price.isFinite :=
  Bool.and_self _

/-! ## What a selector keeps and shows -/

/-- Both bounds are finite. -/
def ZoneCluster.Bounded (c : ZoneCluster) : Prop :=
  c.min.isFinite = true ∧ c.max.isFinite = true

theorem ZoneCluster.Spans.bounded {c : ZoneCluster} (h : c.Spans)
    (hmembers : ∀ z ∈ c.members, z.Bounded) : c.Bounded := by
  obtain ⟨⟨low, hlow, hmin⟩, -⟩ := h.bottoms
  obtain ⟨⟨high, hhigh, hmax⟩, -⟩ := h.tops
  unfold Bounded
  rw [hmin, hmax]
  exact ⟨(hmembers low hlow).1, (hmembers high hhigh).2⟩

namespace Selector

variable {s : Selector} {r : SelectionRequest}

/-- A selector whose geometries are all finite. -/
structure KeepsFinite (s : Selector) : Prop where
  zones : s.KeepsBands
  clusters : ∀ ⦃id : String⦄ ⦃g : Geometry⦄, s.frozen.clusters[id]? = some g →
    g.min.isFinite = true ∧ g.max.isFinite = true

theorem keepsFinite_of_empty (h : s.frozen = {}) : s.KeepsFinite := by
  constructor <;> intro id g hg <;> simp [h] at hg

/-- **One answer.** Bounds that are frozen are those of the zones shown, and these are shown where
they are kept. -/
theorem KeepsFinite.answer (h : s.KeepsFinite) (r : SelectionRequest) :
    (s.answer r).2.KeepsFinite where
  zones := h.zones.answer r
  clusters id g hg := by
    rcases frozen_cluster_after hg with ⟨hold, -⟩ | ⟨c, ⟨hshown, rules, hgrouped⟩, -, rfl⟩
    · exact h.clusters hold
    · have hzones : ∀ z ∈ (s.answer r).1.zones, z.Bounded := by
        intro z hz
        have hband := h.zones.answer r (kept_of_shown_zone hz)
        exact ⟨hband.low, hband.high⟩
      exact (spans_clustersOf hzones c hgrouped).bounded
        fun z hz => hzones z (mem_zones_of_mem_members hshown hz)

theorem KeepsFinite.bounded_clusters (h : s.KeepsFinite) {c : ZoneCluster}
    (hc : c ∈ (s.answer r).1.clusters) : c.Bounded := by
  have hfinite := (h.answer r).clusters (kept_of_shown_cluster hc)
  exact hfinite

end Selector

/-! ## What a layer knows -/

/-- What is known can be drawn. -/
structure Content.Finite (c : Content) : Prop where
  selector : c.selector.KeepsFinite
  clusters : ∀ cluster ∈ c.selection.clusters, cluster.Bounded
  pools : ∀ p ∈ c.pools, p.isFinite = true

theorem Content.finite_invariant : Invariant Content.Finite where
  told h _ hselector hselection hpools := by
    refine ⟨?_, ?_, ?_⟩
    · rw [hselector]; exact h.selector
    · rw [hselection]; exact h.clusters
    · rw [hpools]; exact h.pools
  refreshed {c} h :=
    { selector := h.selector.answer ⟨c.zones, c.bars, c.view, c.limit⟩
      clusters := fun _ hc => h.selector.bounded_clusters (r := ⟨c.zones, c.bars, c.view, c.limit⟩) hc
      pools := h.pools }
  forgotten _ :=
    { selector := Selector.keepsFinite_of_empty rfl
      clusters := fun _ hc => (nomatch hc)
      pools := fun _ hp => (nomatch hp) }
  pooled pools h :=
    { selector := h.selector
      clusters := h.clusters
      pools := fun _ hp => (List.mem_filter.mp (lastOfEach_subset Pool.id _ hp)).2 }

namespace Layer

variable {m : Marks} {l : Layer MemorySurface}

theorem Reaches.finite (h : Reaches m l) : l.content.Finite := by
  induction h with
  | create _ hcreate =>
    rw [eq_fresh_of_create? hcreate]
    exact
      { selector := Selector.keepsFinite_of_empty rfl
        clusters := fun _ hc => (nomatch hc)
        pools := fun _ hp => (nomatch hp) }
  | command c _ ih =>
    rw [content_step]
    exact Content.finite_invariant.step ih c
  | clock now _ ih => exact ih
  | host _ _ _ ih => exact ih

/-- A disposed layer has taken all drawings off its surface. -/
theorem Reaches.drawings_of_disposed (h : Reaches m l) (hdisposed : l.disposed = true) :
    l.surface.drawings = [] := by
  induction h with
  | create _ hcreate =>
    rw [eq_fresh_of_create? hcreate] at hdisposed
    cases hdisposed
  | @command m l c hreach ih =>
    cases hlive : l.disposed with
    | true =>
      have hsurface : (l.step c).surface = l.surface := by
        unfold step perform
        rw [if_pos hlive]
        cases c <;> rfl
      rw [hsurface, ih hlive]
    | false =>
      rw [step_of_live hlive] at hdisposed ⊢
      obtain rfl := eq_dispose_of_disposed hlive hdisposed
      exact (hreach.inLine hlive).mirrored.shown_clearAll
  | clock now _ ih => exact ih hdisposed
  | host _ hdrawings _ ih => exact hdrawings.trans (ih hdisposed)

/-- A level that was delivered has its price from a finite one and a tick size. -/
theorem Reaches.levels_on_tick (h : Reaches m l) :
    ∀ level ∈ m.levels, ∃ price tickSize : Float,
      price.isFinite = true ∧ level.price = onTick price tickSize := by
  induction h with
  | create _ _ => exact fun _ hlevel => (nomatch hlevel)
  | @command m l c _ ih =>
    cases c with
    | setBars bars =>
      have hafter : m.after l (.setBars bars) =
          if (l.bars.setBars bars).1.datasetChanged then {} else m := rfl
      rw [hafter]
      split
      · exact fun _ hlevel => (nomatch hlevel)
      · exact ih
    | setSessions sessions => exact ih
    | setLevels levels timeframe tickSize =>
      intro level hlevel
      obtain ⟨v, hv, rfl⟩ := List.mem_map.mp (lastOfEach_subset Level.id _ hlevel)
      exact ⟨v.price, tickSize, (List.mem_filter.mp hv).2, rfl⟩
    | _ => exact ih
  | clock now _ ih => exact ih
  | host _ _ _ ih => exact ih

end Layer

/-! ## What is drawn -/

namespace MemorySurface.Shows

variable {β : Type} {family : DrawingFamily} {key : β → String} {drawing : β → Drawing}
  {items : List β} {s : MemorySurface}

/-- Every drawing of a family is that of an item. -/
theorem exists_item (h : s.Shows family key drawing items) {p : PlacedDrawing}
    (hp : p ∈ s.drawings) (hfamily : p.key.family = family) :
    ∃ x ∈ items, p.drawing.LooksLike (drawing x) := by
  have hidentity : p.key.identity ∈ items.map key :=
    h.identities.subset (List.mem_map_of_mem
      (f := fun p : PlacedDrawing => p.key.identity)
      (List.mem_filter.mpr ⟨hp, decide_eq_true hfamily⟩))
  obtain ⟨x, hx, hkey⟩ := List.mem_map.mp hidentity
  refine ⟨x, hx, h.looks p hp x hx ?_⟩
  rw [hkey]
  exact DrawingKey.eq_mk hfamily

/-- Every item has a drawing. -/
theorem exists_drawing (h : s.Shows family key drawing items) {x : β} (hx : x ∈ items) :
    ∃ p ∈ s.drawings, p.key.family = family ∧ p.drawing.LooksLike (drawing x) := by
  obtain ⟨p, hp, hidentity⟩ := List.mem_map.mp
    (h.identities.symm.subset (List.mem_map_of_mem (f := key) hx))
  obtain ⟨hp, hfamily⟩ := List.mem_filter.mp hp
  have hfamily := of_decide_eq_true hfamily
  refine ⟨p, hp, hfamily, h.looks p hp x hx ?_⟩
  rw [← hidentity]
  exact DrawingKey.eq_mk hfamily

/-- The drawings of a family are finite exactly if those wanted are. -/
theorem finite_iff (h : s.Shows family key drawing items) :
    (∀ p ∈ s.drawings, p.key.family = family → p.drawing.hasFinitePrices = true) ↔
      ∀ x ∈ items, (drawing x).hasFinitePrices = true := by
  constructor
  · intro hfinite x hx
    obtain ⟨p, hp, hfamily, hlooks⟩ := h.exists_drawing hx
    rw [← hlooks.hasFinitePrices_eq]
    exact hfinite p hp hfamily
  · intro hfinite p hp hfamily
    obtain ⟨x, hx, hlooks⟩ := h.exists_item hp hfamily
    rw [hlooks.hasFinitePrices_eq]
    exact hfinite x hx

end MemorySurface.Shows

namespace Layer

variable {m : Marks} {l : Layer MemorySurface}

/-- Of each family but the levels all drawings are finite. -/
theorem Reaches.finite_of_family_ne (h : Reaches m l) (hlive : l.disposed = false)
    {p : PlacedDrawing} (hp : p ∈ l.surface.drawings) (hfamily : p.key.family ≠ .level) :
    p.drawing.hasFinitePrices = true := by
  have hline := h.inLine hlive
  have hknown := h.finite
  cases hkind : p.key.family with
  | zone =>
    refine (hline.zones.shows hline.mirrored).finite_iff.mpr (fun c hc => ?_) p hp hkind
    have hbounded := hknown.clusters c hc
    exact Bool.and_eq_true_iff.mpr ⟨hbounded.2, hbounded.1⟩
  | pool =>
    exact (hline.pools.shows hline.mirrored).finite_iff.mpr
      (fun p hp => Drawing.hasFinitePrices_ofPool (hknown.pools p hp)) p hp hkind
  | level => exact absurd hkind hfamily
  | session =>
    exact (hline.sessions.shows hline.mirrored).finite_iff.mpr (fun _ _ => rfl) p hp hkind

/-- **Only finite prices are drawn, but for levels.** After any run, every drawing that is no level
has a top and a bottom that are absent or finite. All drawings have if and only if the layer has
been disposed or each of the levels delivered last lies on its tick at a finite price, and that
price comes from a finite one and the tick size. -/
theorem finite_iff_levels_finite (h : Reaches m l) :
    (∀ p ∈ l.surface.drawings, p.key.family ≠ .level → p.drawing.hasFinitePrices = true) ∧
    ((∀ p ∈ l.surface.drawings, p.drawing.hasFinitePrices = true) ↔
      l.disposed = true ∨ ∀ level ∈ m.levels, level.price.isFinite = true) ∧
    ∀ level ∈ m.levels, ∃ price tickSize : Float,
      price.isFinite = true ∧ level.price = onTick price tickSize := by
  cases hdisposed : l.disposed with
  | true =>
    rw [h.drawings_of_disposed hdisposed]
    exact ⟨fun _ hp => (nomatch hp), iff_of_true (fun _ hp => (nomatch hp)) (Or.inl rfl),
      h.levels_on_tick⟩
  | false =>
    have hothers : ∀ p ∈ l.surface.drawings, p.key.family ≠ .level →
        p.drawing.hasFinitePrices = true := fun p hp => h.finite_of_family_ne hdisposed hp
    have hline := h.inLine hdisposed
    have hlevels := (hline.levels.shows hline.mirrored).finite_iff
    simp only [Drawing.hasFinitePrices_ofLevel] at hlevels
    refine ⟨hothers, ?_, h.levels_on_tick⟩
    simp only [Bool.false_eq_true, false_or]
    rw [← hlevels]
    constructor
    · exact fun hall p hp _ => hall p hp
    · intro hall p hp
      by_cases hfamily : p.key.family = .level
      · exact hall p hp hfamily
      · exact hothers p hp hfamily

/-- A zone, a pool, and a level on a tick of a half. -/
theorem finite_of_mixed :
    ∃ m, Reaches m (untouched.run mixedCommands) ∧
      (untouched.run mixedCommands).surface.drawings.map (fun p => p.key) =
        [⟨.zone, "z"⟩, ⟨.pool, "p"⟩, ⟨.level, "pdh"⟩] ∧
      (∀ level ∈ m.levels, level.price.isFinite = true) ∧
      ∀ p ∈ (untouched.run mixedCommands).surface.drawings, p.drawing.hasFinitePrices = true := by
  obtain ⟨m, hreach, hlevels⟩ : ∃ m, Reaches m (untouched.run mixedCommands) ∧
      ∀ level ∈ m.levels, level.price.isFinite = true :=
    ⟨_, (((Reaches.create rfl create?_untouched).command _).command _).command _ |>.command _,
      by decide +kernel⟩
  exact ⟨m, hreach, by decide +kernel, hlevels,
    (finite_iff_levels_finite hreach).2.1.mpr (Or.inr hlevels)⟩

/-- **Beyond all prices.** A level at 100 with a tick size so small that no double counts the ticks
is drawn at an infinity. -/
theorem level_drawn_beyond_all_prices :
    ∃ m l, Reaches m l ∧
      l = untouched.run [.setLevels [⟨"pdh", 100.0, .premium, none⟩] none 1e-307] ∧
      ∃ p ∈ l.surface.drawings, p.drawing.extent.top = some positiveInfinity ∧
        p.drawing.hasFinitePrices = false := by
  refine ⟨_, _, (Reaches.create rfl create?_untouched).command _, rfl, ?_⟩
  decide +kernel

end Layer

end ChartLayer
