import ChartLayer.Proofs.Layer.Drawn
import ChartLayer.Proofs.Layer.Hand
import ChartLayer.Proofs.Zone.NoRepaint

/-!
# Another dataset

A history that does not continue the one before is another dataset, and the layer forgets the old
one: its zones and pools, what it has drawn, its labels, its frozen geometry, the ranges of its
prices and the drag in progress. One thing stays. The preview of the bar that is forming is kept
with the new bars unless it is older than the last of them, and its close is then the reference
price.

* `content_eq_of_switch`: two layers that keep the same preview know the same afterwards.
* `switch_forgets_all_but_preview`: and they show the same, and go on selecting the same.
* `preview_outlives_its_dataset`: with the preview of the old dataset they do not.
-/

namespace ChartLayer

/-! ## A layer without zones shows nothing -/

namespace Selector

variable {r : SelectionRequest}

theorem shown_of_no_zones (s : Selector) (h : r.zones = []) : (s.shown r).1 = [] := by
  have hdelivered : r.delivered = [] := by
    refine List.eq_nil_iff_forall_not_mem.mpr fun z hz => ?_
    have hfinite := mem_of_mem_uniqueById hz
    rw [h] at hfinite
    exact List.not_mem_nil hfinite
  unfold shown SelectionRequest.trusted
  rw [hdelivered]
  rfl

theorem clusters_of_no_zones (s : Selector) (h : r.zones = []) : (s.answer r).1.clusters = [] := by
  cases href : r.bars.reference? with
  | none => rw [answer_of_none href]
  | some reference =>
    have hnarrowed : s.narrowed r reference = [] := by
      have hsub := narrow_subperm s.rules r.bars reference r.shownView? r.limit (s.shown r).1
      rw [s.shown_of_no_zones h] at hsub
      unfold narrowed
      rw [s.shown_of_no_zones h]
      exact List.subperm_nil.mp hsub
    have hbanded : (s.banded r reference).1 = [] := by
      unfold banded grouped
      rw [hnarrowed]
      simp [clustersOf, sortByPrice, sweep, closeGroup?_nil, Frozen.showClusters]
    rw [answer_of_some href, hbanded]
    exact List.mergeSort_nil

end Selector

namespace Layer

variable {l l₁ l₂ : Layer MemorySurface} {m m₁ m₂ : Marks} {bars : List Bar}

/-! ## What is known -/

/-- A layer selects by the rules of its settings. -/
theorem Reaches.ruled (h : Reaches m l) : l.content.Ruled := by
  induction h with
  | create _ hcreate =>
    rw [eq_fresh_of_create? hcreate]
    rfl
  | command c _ ih =>
    rw [content_step]
    exact ih.step c
  | clock now _ ih => exact ih
  | host _ _ _ ih => exact ih

/-- **What is known after the change.** It depends on the settings, the view, the limit and the
preview that is kept. -/
theorem content_eq_of_switch (hruled₁ : l₁.content.Ruled) (hruled₂ : l₂.content.Ruled)
    (hsettings : l₁.settings = l₂.settings) (hview : l₁.view = l₂.view)
    (hlimit : l₁.limit = l₂.limit) (hdisposed : l₁.disposed = l₂.disposed)
    (hchanged₁ : (l₁.bars.setBars bars).1.datasetChanged = true)
    (hchanged₂ : (l₂.bars.setBars bars).1.datasetChanged = true)
    (hpreview : (l₁.bars.setBars bars).2.live = (l₂.bars.setBars bars).2.live) :
    (l₁.setBars bars).content = (l₂.setBars bars).content := by
  have hseries : (l₁.bars.setBars bars).2 = (l₂.bars.setBars bars).2 := by
    exact BarSeries.mk.injEq _ _ _ _ ▸ ⟨rfl, hpreview⟩
  have hrules : l₁.selector.rules = l₂.selector.rules := by
    have h₁ : l₁.selector.rules = l₁.settings.zones := hruled₁
    have h₂ : l₂.selector.rules = l₂.settings.zones := hruled₂
    rw [h₁, h₂, hsettings]
  rw [content_setBars, content_setBars]
  unfold Content.withBars
  simp only [content_bars, hchanged₁, hchanged₂, if_true]
  congr 1
  unfold Content.forgotten Selector.clear content
  simp only [hsettings, hview, hlimit, hdisposed, hseries, hrules]

/-! ## What is shown -/

theorem labels_scheduleLabels (l : Layer MemorySurface) : l.scheduleLabels.labels = l.labels := by
  unfold scheduleLabels askFrameIf
  dsimp only
  split <;> rfl

theorem labels_refresh (l : Layer MemorySurface) : l.refresh.labels = l.labels := by
  rcases refresh_cases l with ⟨-, -, heq⟩ | heq <;> rw [heq]
  · rfl
  · exact labels_scheduleLabels _

theorem labels_of_switch (hchanged : (l.bars.setBars bars).1.datasetChanged = true) :
    (l.setBars bars).labels = {} := by
  rw [setBars_of_changed l hchanged]
  exact labels_refresh _

/-- No range is left, no drag and no gesture that waits. -/
theorem scale_of_switch (hchanged : (l.bars.setBars bars).1.datasetChanged = true) :
    (l.setBars bars).scale = l.scale.clear :=
  (keepsHand_switch l hchanged).scale

theorem clusters_of_switch (hchanged : (l.bars.setBars bars).1.datasetChanged = true) :
    (l.setBars bars).selection.clusters = [] ∧ (l.setBars bars).pools = [] := by
  have hcontent := content_setBars l bars
  unfold Content.withBars at hcontent
  simp only [content_bars, hchanged, if_true] at hcontent
  constructor
  · have hselection := congrArg (fun c : Content => c.selection.clusters) hcontent
    exact hselection.trans
      (Selector.clusters_of_no_zones l.selector.clear
        (r := ⟨[], (l.bars.setBars bars).2, l.view, l.limit⟩) rfl)
  · exact congrArg Content.pools hcontent

end Layer

theorem MemorySurface.Shows.family_ne {β : Type} {family : DrawingFamily} {key : β → String}
    {drawing : β → Drawing} {s : MemorySurface} (h : s.Shows family key drawing [])
    {p : PlacedDrawing} (hp : p ∈ s.drawings) : p.key.family ≠ family := by
  intro hfamily
  have hnone := List.map_eq_nil_iff.mp (List.perm_nil.mp h.identities)
  have hmem : p ∈ s.drawings.filter fun p => p.key.family = family :=
    List.mem_filter.mpr ⟨hp, decide_eq_true hfamily⟩
  rw [hnone] at hmem
  exact List.not_mem_nil hmem

namespace Layer

variable {l l₁ l₂ : Layer MemorySurface} {m m₁ m₂ : Marks} {bars : List Bar}

theorem InLine.no_drawings (h : InLine {} l) (hclusters : l.selection.clusters = [])
    (hpools : l.pools = []) : l.surface.drawings = [] := by
  have hzones := h.zones
  rw [hclusters] at hzones
  have hpool := h.pools
  rw [hpools] at hpool
  refine List.eq_nil_iff_forall_not_mem.mpr fun p hp => ?_
  cases hfamily : p.key.family with
  | zone => exact (hzones.shows h.mirrored).family_ne hp hfamily
  | pool => exact (hpool.shows h.mirrored).family_ne hp hfamily
  | level => exact (h.levels.shows h.mirrored).family_ne hp hfamily
  | session => exact (h.sessions.shows h.mirrored).family_ne hp hfamily

/-- Nothing is left of the drawings. -/
theorem drawings_of_switch (h : Reaches m l) (hlive : l.disposed = false)
    (hchanged : (l.bars.setBars bars).1.datasetChanged = true) :
    (l.setBars bars).surface.drawings = [] := by
  obtain ⟨hclusters, hpools⟩ := clusters_of_switch hchanged
  have hline := (h.inLine hlive).setBars bars
  have hmarks : m.after l (.setBars bars) = {} := if_pos hchanged
  rw [hmarks] at hline
  exact hline.no_drawings hclusters hpools

/-- What a reader can see of two layers, and ask them, is the same. -/
structure Alike (l₁ l₂ : Layer MemorySurface) : Prop where
  reference : l₁.bars.reference? = l₂.bars.reference?
  selection : l₁.selection = l₂.selection
  manual : l₁.scale.manual = l₂.scale.manual
  auto : l₁.scale.auto = l₂.scale.auto
  effective : l₁.scale.effective = l₂.scale.effective
  phase : l₁.scale.drag.phase = l₂.scale.drag.phase
  frozen : l₁.selector.frozen = l₂.selector.frozen
  labels : l₁.labels = l₂.labels
  drawings : l₁.surface.drawings = l₂.surface.drawings

/-- **Another dataset.** Two layers with the same settings, view and limit, for which a history is
another dataset, show the same after it if they keep the same preview, and whatever both are asked
from then on, they select the same. -/
theorem switch_forgets_all_but_preview (h₁ : Reaches m₁ l₁) (h₂ : Reaches m₂ l₂)
    (hlive₁ : l₁.disposed = false) (hlive₂ : l₂.disposed = false)
    (hsettings : l₁.settings = l₂.settings) (hview : l₁.view = l₂.view)
    (hlimit : l₁.limit = l₂.limit)
    (hchanged₁ : (l₁.bars.setBars bars).1.datasetChanged = true)
    (hchanged₂ : (l₂.bars.setBars bars).1.datasetChanged = true)
    (hpreview : (l₁.bars.setBars bars).2.live = (l₂.bars.setBars bars).2.live) :
    Alike (l₁.step (.setBars bars)) (l₂.step (.setBars bars)) ∧
      ∀ commands : List Command,
        ((l₁.step (.setBars bars)).run commands).selection =
          ((l₂.step (.setBars bars)).run commands).selection := by
  have hcontent : (l₁.setBars bars).content = (l₂.setBars bars).content :=
    content_eq_of_switch h₁.ruled h₂.ruled hsettings hview hlimit (hlive₁.trans hlive₂.symm)
      hchanged₁ hchanged₂ hpreview
  rw [step_of_live hlive₁, step_of_live hlive₂]
  change Alike (l₁.setBars bars) (l₂.setBars bars) ∧ ∀ commands : List Command,
    ((l₁.setBars bars).run commands).selection = ((l₂.setBars bars).run commands).selection
  constructor
  · exact
      { reference := congrArg (fun c : Content => c.bars.reference?) hcontent
        selection := congrArg Content.selection hcontent
        manual := by rw [scale_of_switch hchanged₁, scale_of_switch hchanged₂]; rfl
        auto := by rw [scale_of_switch hchanged₁, scale_of_switch hchanged₂]; rfl
        effective := by rw [scale_of_switch hchanged₁, scale_of_switch hchanged₂]; rfl
        phase := by rw [scale_of_switch hchanged₁, scale_of_switch hchanged₂]; rfl
        frozen := congrArg (fun c : Content => c.selector.frozen) hcontent
        labels := by rw [labels_of_switch hchanged₁, labels_of_switch hchanged₂]
        drawings := by
          rw [drawings_of_switch h₁ hlive₁ hchanged₁, drawings_of_switch h₂ hlive₂ hchanged₂] }
  · intro commands
    have hlater : ((l₁.setBars bars).run commands).content =
        ((l₂.setBars bars).run commands).content := by
      rw [content_run, content_run, hcontent]
    exact congrArg Content.selection hlater

/-- A complete bar of one price. -/
def flatBar (time : Time) (price : Float) : Bar :=
  ⟨time, price, price, price, price, 1.0, true⟩

/-- A dataset with a zone, a range, and a gesture that waits for geometry. -/
def usedCommands : List Command :=
  [.setBars [flatBar 900 500.0],
    .setZones [Selector.quarterZone 499.0 501.0 0],
    .autoscale (some ⟨490.0, 510.0⟩),
    .gesture (.wheel 40.0 120.0 true .plot), .frame]

theorem switch_of_used :
    (untouched.run usedCommands).selection.zones.map (fun z => z.id) = ["a"] ∧
      Alike (untouched.step (.setBars [flatBar 1800 100.0]))
        ((untouched.run usedCommands).step (.setBars [flatBar 1800 100.0])) ∧
      ∀ commands : List Command,
        ((untouched.step (.setBars [flatBar 1800 100.0])).run commands).selection =
          (((untouched.run usedCommands).step (.setBars [flatBar 1800 100.0])).run
            commands).selection := by
  have huntouched : Reaches {} untouched := .create rfl create?_untouched
  have hused : ∃ m, Reaches m (untouched.run usedCommands) :=
    ⟨_, (((huntouched.command _).command _).command _).command _ |>.command _⟩
  obtain ⟨m, hused⟩ := hused
  refine ⟨by decide +kernel, ?_⟩
  exact switch_forgets_all_but_preview huntouched hused (by decide +kernel) (by decide +kernel)
    (by decide +kernel) (by decide +kernel) (by decide +kernel) (by decide +kernel)
    (by decide +kernel) (by decide +kernel)

/-- **The preview outlives its dataset.** It was given with bars at 500; then come bars at 100,
which a layer that has just been made measures from 100. -/
theorem preview_outlives_its_dataset :
    let previewed := untouched.run [.setBars [flatBar 0 500.0], .previewBar (flatBar 9000 500.0)]
    let bars := [flatBar 900 100.0]
    previewed.settings = untouched.settings ∧ previewed.view = untouched.view ∧
      previewed.limit = untouched.limit ∧
      (untouched.bars.setBars bars).1.datasetChanged = true ∧
      (previewed.bars.setBars bars).1.datasetChanged = true ∧
      (untouched.step (.setBars bars)).bars.reference? = some 100.0 ∧
      (previewed.step (.setBars bars)).bars.reference? = some 500.0 := by
  decide +kernel

end Layer

end ChartLayer
