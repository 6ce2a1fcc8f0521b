import ChartLayer.Proofs.Label.Identities
import ChartLayer.Proofs.Layer.Drawn
import ChartLayer.Proofs.Layer.Hand
import ChartLayer.Proofs.Layer.Lettering

/-!
# The labels follow the selection

Labels are placed in frames, and a layer schedules them only where it sees a need. `InSync` is what
must hold for that to be enough: the labels are due for the dataset that is shown, or they are those
of the clusters selected and the pools kept, or they were given up for want of geometry. Labels that
are due for an older dataset are dropped, which does no harm as nothing is selected then.

* `InSync.refresh`: a selection that schedules no labels changes none, for nothing was selected
  before and nothing is selected now.
* `InSync.settleLabels`: a frame, whatever becomes of its attempt.
* `LabelRun.inSync`, `labels_in_sync`: so the labels are in line after every run.
-/

namespace ChartLayer

theorem Changes.removed_eq_zero {report : Changes} (h : report.isEmpty = true) :
    report.removed = 0 := by
  simp only [Changes.isEmpty, Bool.and_eq_true, beq_iff_eq] at h
  exact h.2

/-- A reconciliation that removes nothing wants all that was drawn. -/
theorem Registry.Draws.wanted_of_none_removed {β : Type} {family : DrawingFamily}
    {key : β → String} {drawing : β → Drawing} {items : List β} {r : Registry}
    (h : r.Draws family key drawing items) {desired : DesiredDrawings} {s : MemorySurface}
    (hnone : (r.reconcile family desired s).report.removed = 0) {x : β} (hx : x ∈ items) :
    key x ∈ desired := by
  rw [removed_reconcile, List.length_eq_zero_iff] at hnone
  by_contra hunwanted
  obtain ⟨e, he, -⟩ := h.entry_of_mem hx
  have hdrawn : (⟨family, key x⟩ : DrawingKey) ∈ r.entries := by
    rw [Std.ExtTreeMap.mem_iff_isSome_getElem?, he]
    rfl
  have hstale : (⟨family, key x⟩ : DrawingKey) ∈ r.staleKeys family desired :=
    mem_staleKeys.mpr ⟨hdrawn, rfl, hunwanted⟩
  rw [hnone] at hstale
  exact List.not_mem_nil hstale

namespace Layer

variable {l l' : Layer MemorySurface} {last : Option LabelAttempt} {m : Marks}

/-! ## The invariant -/

/-- The labels are those that are wanted, each placed or hidden. -/
def Lettered (l : Layer MemorySurface) : Prop :=
  l.labels.ids.Perm (l.labelRequests.map (·.id))

/-- The surface has the labels of the layer. They are due for the dataset that is shown, or were
given up in the last attempt to place them, or are those that are wanted. -/
structure InSync (last : Option LabelAttempt) (l : Layer MemorySurface) : Prop where
  shown : l.surface.labels = l.labels
  current : l.relayout.pending = some l.generation ∨
    (l.relayout.pending = none ∧ last = some .abandoned) ∨ l.Lettered

theorem InSync.of_keeps (h : InSync last l) (hkeeps : KeepsLabels l l') : InSync last l' where
  shown := by rw [hkeeps.shown, hkeeps.labels, h.shown]
  current := by
    unfold Lettered
    rw [hkeeps.generation, hkeeps.labels, hkeeps.wanted]
    rcases hkeeps.due with hsame | hdue
    · rw [hsame]
      exact h.current
    · exact Or.inl hdue

/-- Where no labels are wanted, none are in line with that. -/
theorem inSync_nothing (hshown : l.surface.labels = {}) (hlabels : l.labels = {})
    (hselection : l.selection = {}) (hpools : l.pools = []) : InSync last l where
  shown := by rw [hshown, hlabels]
  current := by
    refine Or.inr (Or.inr ?_)
    unfold Lettered labelRequests
    rw [hlabels, hselection, hpools]
    exact .nil

/-- Labels that are scheduled are due. -/
theorem inSync_scheduleLabels (hshown : l.surface.labels = l.labels) :
    InSync last l.scheduleLabels where
  shown := by
    have hkeeps := keepsLabels_scheduleLabels l
    rw [hkeeps.shown, hkeeps.labels, hshown]
  current := by
    rw [relayout_scheduleLabels, (keepsLabels_scheduleLabels l).generation]
    exact Or.inl rfl

/-! ## Selecting anew -/

/-- **Selecting anew.** The labels are scheduled, unless nothing is selected and the surface had no
band to lose. Then nothing was selected before. -/
theorem InSync.refresh (h : InSync last l)
    (hdraws : l.registry.Draws .zone ZoneCluster.id Drawing.ofCluster l.selection.clusters) :
    InSync last l.refresh := by
  have hkeeps : KeepsLabels l.reselected l.reselected.drawSelection.2 :=
    keepsLabels_reconcile _ _ _
  rcases refresh_cases l with ⟨hchanges, hempty, heq⟩ | heq <;> rw [heq]
  · have hselected : l.reselected.selection.clusters = [] := List.isEmpty_iff.mp hempty
    have hbefore : l.selection.clusters = [] := by
      refine List.eq_nil_iff_forall_not_mem.mpr fun c hc => ?_
      have hwanted := hdraws.wanted_of_none_removed (Changes.removed_eq_zero hchanges) hc
      rw [hselected] at hwanted
      exact Std.ExtTreeMap.not_mem_empty hwanted
    have hwanted : l.reselected.labelRequests = l.labelRequests := by
      unfold labelRequests
      rw [hbefore, hselected]
      rfl
    have hchosen : InSync last l.reselected := by
      refine ⟨h.shown, ?_⟩
      unfold Lettered
      rw [hwanted]
      exact h.current
    exact hchosen.of_keeps hkeeps
  · refine inSync_scheduleLabels ?_
    exact (hkeeps.shown.trans h.shown).trans hkeeps.labels.symm

theorem InSync.drawBars (h : InSync last l)
    (hdraws : l.registry.Draws .zone ZoneCluster.id Drawing.ofCluster l.selection.clusters) :
    InSync last l.drawBars := by
  have hshown : InSync last (l.onSurface (Surface.showBars l.bars.bars)) := h.of_keeps (.of_eq rfl)
  exact hshown.refresh hdraws

theorem inSync_forgetDataset (l : Layer MemorySurface) : InSync last l.forgetDataset :=
  inSync_nothing rfl rfl rfl rfl

/-- **A history.** Another dataset takes the labels with it, and those that are still due for the
old one do no harm. -/
theorem InSync.setBars (h : InSync last l) (hline : InLine m l) (bars : List Bar) :
    InSync last (l.setBars bars) := by
  cases hchanged : (l.bars.setBars bars).1.datasetChanged with
  | false =>
    have htaken : InSync last (l.takeBars bars) := h.of_keeps (.of_eq rfl)
    rw [setBars_of_same l hchanged]
    exact (htaken.drawBars hline.zones).of_keeps (keepsLabels_restoreTimes _ _)
  | true =>
    have hforgotten : InSync last (l.takeBars bars).forgetDataset := inSync_forgetDataset _
    rw [setBars_of_changed l hchanged]
    exact (hforgotten.drawBars (Registry.draws_nil _ _ _)).of_keeps (.of_eq rfl)

theorem InSync.updateBar (h : InSync last l) (hline : InLine m l) (bar : Bar) :
    InSync last (l.updateBar bar) := by
  have htaken : InSync last (l.takeBar bar) := h.of_keeps (.of_eq rfl)
  rcases l.updateBar_cases bar with heq | heq | heq <;> rw [heq]
  · exact h.of_keeps (keepsLabels_report l _)
  · exact htaken
  · exact htaken.refresh hline.zones

theorem InSync.setZones (h : InSync last l) (hline : InLine m l) (zones : List Zone) :
    InSync last (l.setZones zones) := by
  have hzones : InSync last ({ l with zones } : Layer MemorySurface) := h.of_keeps (.of_eq rfl)
  exact (hzones.refresh hline.zones).of_keeps (keepsLabels_restoreTimes _ _)

theorem InSync.mergeZone (h : InSync last l) (hline : InLine m l) (zone : Zone) :
    InSync last (l.mergeZone zone) := by
  have hzones : InSync last ({ l with zones := putZone zone l.zones } : Layer MemorySurface) :=
    h.of_keeps (.of_eq rfl)
  exact hzones.refresh hline.zones

theorem InSync.setView (h : InSync last l) (hline : InLine m l) (view : Option Timeframe) :
    InSync last (l.setView view) := by
  have hview : InSync last ({ l with view } : Layer MemorySurface) := h.of_keeps (.of_eq rfl)
  unfold Layer.setView
  split
  · exact h
  · exact hview.refresh hline.zones

theorem InSync.setLimit (h : InSync last l) (hline : InLine m l) (limit : LimitMode) :
    InSync last (l.setLimit limit) := by
  have hlimit : InSync last ({ l with limit } : Layer MemorySurface) := h.of_keeps (.of_eq rfl)
  unfold Layer.setLimit
  split
  · exact h
  · exact hlimit.refresh hline.zones

/-- Pools always have the labels placed anew. -/
theorem InSync.setPools (h : InSync last l) (pools : List Pool) : InSync last (l.setPools pools) := by
  let kept := lastOfEach Pool.id (pools.filter Pool.isFinite)
  let taken := ({ l with pools := kept } : Layer MemorySurface).report (poolIssues pools)
  let drawn := (taken.reconcile .pool (drawingsOf Pool.id Drawing.ofPool kept)).2
  have hkeeps : KeepsLabels taken drawn := keepsLabels_reconcile _ _ _
  have hshown : drawn.surface.labels = drawn.labels :=
    (hkeeps.shown.trans h.shown).trans hkeeps.labels.symm
  exact (inSync_scheduleLabels hshown).of_keeps (keepsLabels_restoreTimes _ _)

/-! ## Frames -/

/-- **An attempt.** It places the labels that are wanted, or leaves them due, or gives them up, or
drops labels of an older dataset. -/
theorem InSync.settleLabels (h : InSync last l) :
    InSync (l.labelAttempt?.or last) l.settleLabels := by
  have hstep := labelStep l
  have hcurrent := h.current
  generalize l.settleLabels = after, l.labelAttempt? = attempt at hstep
  cases hstep with
  | idle hnone =>
    refine ⟨h.shown, ?_⟩
    rw [hnone] at hcurrent
    rcases hcurrent with hdue | hsettled
    · cases hdue
    · exact Or.inr hsettled
  | outdated hpending hother =>
    refine ⟨h.shown, ?_⟩
    rw [hpending, Option.some_inj] at hcurrent
    rcases hcurrent with hdue | ⟨hdue, -⟩ | hlettered
    · exact absurd hdue hother
    · cases hdue
    · exact Or.inr (Or.inr hlettered)
  | placed _ hlayout => exact ⟨rfl, Or.inr (Or.inr (Labels.ids_layout hlayout))⟩
  | postponed => exact inSync_scheduleLabels h.shown
  | abandoned => exact ⟨h.shown, Or.inr (Or.inl ⟨rfl, rfl⟩)⟩

/-! ## Any command -/

/-- The attempt to place the labels that is made in the course of a command, which has to be a
frame. -/
def attempt? (l : Layer MemorySurface) : Command → Option LabelAttempt
  | .frame => if l.disposed then none else l.untilLabels.labelAttempt?
  | _ => none

/-- **One command.** -/
theorem InSync.performLive (h : InSync last l) (hline : InLine m l) (hlive : l.disposed = false)
    (c : Command) : InSync ((l.attempt? c).or last) (l.performLive c).2 := by
  cases hrelabels : c.relabels with
  | false =>
    have hnone : l.attempt? c = none := by
      cases c <;> first | rfl | cases hrelabels
    rw [hnone]
    exact h.of_keeps (l.keepsLabels_performLive hrelabels)
  | true =>
    cases c with
    | setBars bars => exact h.setBars hline bars
    | updateBar bar => exact h.updateBar hline bar
    | setZones zones => exact h.setZones hline zones
    | mergeZone zone => exact h.mergeZone hline zone
    | setPools pools => exact h.setPools pools
    | setView view => exact h.setView hline view
    | setLimit limit => exact h.setLimit hline limit
    | frame =>
      have hattempt : l.attempt? .frame = l.untilLabels.labelAttempt? := by
        simp [attempt?, hlive]
      rw [hattempt]
      exact (h.of_keeps (keepsLabels_untilLabels l)).settleLabels
    | dispose => exact inSync_nothing rfl rfl rfl rfl
    | _ => cases hrelabels

/-- A layer that has ended keeps its labels, of which there are none. -/
theorem InSync.performDisposed (h : InSync last l) (hdisposed : l.disposed = true) (c : Command) :
    InSync ((l.attempt? c).or last) (l.performDisposed c).2 := by
  have hnone : l.attempt? c = none := by
    cases c <;> simp [attempt?, hdisposed]
  have hsame : (l.performDisposed c).2.lettering = l.lettering := by
    cases c <;> rfl
  rw [hnone]
  exact h.of_keeps (.of_eq hsame)

/-! ## Any run -/

/-- What can come of a layer on an empty surface in memory, and how the last attempt to place its
labels ended: the host gives commands, sets the clock, and does with its surface what it likes,
except for drawings and labels. -/
inductive LabelRun : Option LabelAttempt → Layer MemorySurface → Prop
  | create {surface : MemorySurface} {settings : Settings} {l : Layer MemorySurface} :
      surface.drawings = [] → surface.labels = {} → create? surface settings = .ok l →
      LabelRun none l
  | command {last : Option LabelAttempt} {l : Layer MemorySurface} (c : Command) :
      LabelRun last l → LabelRun ((l.attempt? c).or last) (l.step c)
  | clock {last : Option LabelAttempt} {l : Layer MemorySurface} (now : Nat) :
      LabelRun last l → LabelRun last (l.setClock now)
  | host {last : Option LabelAttempt} {l : Layer MemorySurface} {surface : MemorySurface} :
      LabelRun last l → surface.drawings = l.surface.drawings →
      surface.nextHandle = l.surface.nextHandle → surface.labels = l.surface.labels →
      LabelRun last { l with surface }

/-- The drawings are in line in every such run. -/
theorem LabelRun.reaches (h : LabelRun last l) : ∃ m, Reaches m l := by
  induction h with
  | create hempty _ hcreate => exact ⟨_, .create hempty hcreate⟩
  | command c _ ih =>
    obtain ⟨m, hreaches⟩ := ih
    exact ⟨_, hreaches.command c⟩
  | clock now _ ih =>
    obtain ⟨m, hreaches⟩ := ih
    exact ⟨m, hreaches.clock now⟩
  | host _ hdrawings hnext _ ih =>
    obtain ⟨m, hreaches⟩ := ih
    exact ⟨m, hreaches.host hdrawings hnext⟩

theorem LabelRun.inSync (h : LabelRun last l) : InSync last l := by
  induction h with
  | create _ hlabels hcreate =>
    rw [eq_fresh_of_create? hcreate]
    exact inSync_nothing hlabels rfl rfl rfl
  | @command last l c hrun ih =>
    cases hdisposed : l.disposed with
    | true =>
      have hstep : l.step c = (l.performDisposed c).2 := by
        unfold step perform
        rw [if_pos hdisposed]
      rw [hstep]
      exact ih.performDisposed hdisposed c
    | false =>
      obtain ⟨m, hreaches⟩ := hrun.reaches
      rw [step_of_live hdisposed]
      exact ih.performLive (hreaches.inLine hdisposed) hdisposed c
  | clock now _ ih => exact ih.of_keeps (.of_eq rfl)
  | @host last l surface _ _ _ hlabels ih =>
    exact ih.of_keeps ⟨rfl, rfl, hlabels, rfl, Or.inl rfl⟩

/-- **The labels follow the selection.** In every run, when no labels are due, those placed and
those hidden are together the labels of the clusters selected and of the pools kept, one of each,
unless the last attempt to place them was given up for want of geometry. The surface always has the
labels of the layer. -/
theorem labels_in_sync (h : LabelRun last l) :
    (l.relayout.pending = none →
      last = some .abandoned ∨
        (l.labels.placed.map (·.id) ++ l.labels.hidden).Perm
          (l.selection.clusters.map (fun c => "zone:" ++ c.id) ++
            l.pools.map fun p => "pool:" ++ p.id)) ∧
      l.surface.labels = l.labels := by
  have hsync := h.inSync
  refine ⟨fun hnone => ?_, hsync.shown⟩
  have hcurrent := hsync.current
  rw [hnone] at hcurrent
  rcases hcurrent with hdue | ⟨-, habandoned⟩ | hlettered
  · cases hdue
  · exact Or.inl habandoned
  · right
    unfold Lettered labelRequests at hlettered
    rw [List.map_append, List.map_map, List.map_map] at hlettered
    exact hlettered

/-- A layer on a pane that shows the prices from 95 to 101. -/
def narrowPane : Layer MemorySurface :=
  { untouched with
    surface := { MemorySurface.ofSize 800.0 500.0 with priceRange := some ⟨95.0, 101.0⟩ } }

/-- The zone has its label in the pane; that of the pool would lie above it. -/
theorem labels_in_sync_of_mixed :
    ∃ l, l = (narrowPane.run mixedCommands).step .frame ∧ LabelRun (some .placed) l ∧
      l.relayout.pending = none ∧
      l.labels.placed.map (·.id) = ["zone:z"] ∧ l.labels.hidden = ["pool:p"] ∧
      (l.relayout.pending = none →
        some LabelAttempt.placed = some .abandoned ∨
          (l.labels.placed.map (·.id) ++ l.labels.hidden).Perm
            (l.selection.clusters.map (fun c => "zone:" ++ c.id) ++
              l.pools.map fun p => "pool:" ++ p.id)) ∧
      l.surface.labels = l.labels := by
  have hcreated : LabelRun none narrowPane :=
    (LabelRun.create rfl rfl create?_untouched).host rfl rfl rfl
  have hdelivered : LabelRun none (narrowPane.run mixedCommands) :=
    (((hcreated.command (.setBars _)).command (.setZones _)).command (.setPools _)).command
      (.setLevels _ _ _)
  have hplaced : (narrowPane.run mixedCommands).attempt? .frame = some .placed := by
    decide +kernel
  have hrun : LabelRun (some .placed) ((narrowPane.run mixedCommands).step .frame) := by
    have hframe := hdelivered.command .frame
    rw [hplaced] at hframe
    exact hframe
  exact ⟨_, rfl, hrun, by decide +kernel, by decide +kernel, by decide +kernel, labels_in_sync hrun⟩

end Layer

end ChartLayer
