import ChartLayer.Layer.Command

/-!
# What a layer knows

The content of a layer is what it has been told and what it has made of that: bars, zones, pools,
the view, and the selection. Neither the surface nor the reader's hand has a say in it.
`Content.after` is what a command makes of the content alone, and the layer follows it on every
surface.

* `refresh_cases`, `updateBar_cases`: what an operation can do, for whatever is said of it.
* `content_performLive`, `content_step`: one command.
* `content_run`: any number of them.
* `disposed_step`, `step_of_live`: the end of a layer is final.
-/

namespace ChartLayer

/-- What a layer knows. -/
structure Content where
  settings : Settings
  bars : BarSeries
  selector : Selector
  zones : List Zone
  pools : List Pool
  selection : Selection
  view : Option Timeframe
  limit : LimitMode
  disposed : Bool

namespace Content

/-- The zones selected anew. -/
def refreshed (c : Content) : Content :=
  let (selection, selector) := c.selector.select c.zones c.bars c.view c.limit
  { c with selection, selector }

/-- Nothing is known but bars and settings. -/
def forgotten (c : Content) : Content :=
  { c with
    selector := c.selector.clear
    zones := []
    pools := []
    selection := {} }

/-- After a whole history. -/
def withBars (bars : List Bar) (c : Content) : Content :=
  let (outcome, series) := c.bars.setBars bars
  let c := { c with bars := series }
  if outcome.datasetChanged then c.forgotten.refreshed else c.refreshed

/-- After a bar. -/
def withBar (bar : Bar) (c : Content) : Content :=
  match c.bars.updateLast bar with
  | (.rejected, _) => c
  | (update, series) =>
    let c := { c with bars := series }
    if update = .appended ∨ bar.complete = true then c.refreshed else c

/-- After a preview. -/
def withPreview (bar : Bar) (c : Content) : Content :=
  match c.bars.setLive bar with
  | (true, series) => { c with bars := series }
  | (false, _) => c

def withView (view : Option Timeframe) (c : Content) : Content :=
  if c.view = view then c else { c with view }.refreshed

def withLimit (limit : LimitMode) (c : Content) : Content :=
  if c.limit = limit then c else { c with limit }.refreshed

/-- What is known after a command. -/
def after (c : Content) : Command → Content
  | .setBars bars => c.withBars bars
  | .updateBar bar => c.withBar bar
  | .previewBar bar => c.withPreview bar
  | .clearPreview => { c with bars := c.bars.clearLive }
  | .setZones zones => { c with zones }.refreshed
  | .mergeZone zone => { c with zones := Layer.putZone zone c.zones }.refreshed
  | .setPools pools => { c with pools := lastOfEach Pool.id (pools.filter Pool.isFinite) }
  | .setView view => c.withView view
  | .setLimit limit => c.withLimit limit
  | .dispose =>
    { c with
      bars := c.bars.clear
      selector := c.selector.clear
      zones := []
      pools := []
      selection := {}
      disposed := true }
  | _ => c

/-- What is known after a command, of which the end is the last. -/
def step (c : Content) (command : Command) : Content :=
  if c.disposed then c else c.after command

/-- What is known after several commands. -/
def run (commands : List Command) (c : Content) : Content := commands.foldl step c

/-! ## What no command breaks -/

variable {c : Content}

/-- A property of the settings, the selector, the selection and the pools that is kept when the
zones are selected anew, when a dataset is forgotten, and when pools are delivered. -/
structure Invariant (P : Content → Prop) : Prop where
  told {c c' : Content} : P c → c'.settings = c.settings → c'.selector = c.selector →
    c'.selection = c.selection → c'.pools = c.pools → P c'
  refreshed {c : Content} : P c → P c.refreshed
  forgotten {c : Content} : P c → P c.forgotten
  pooled {c : Content} (pools : List Pool) : P c →
    P { c with pools := lastOfEach Pool.id (pools.filter Pool.isFinite) }

namespace Invariant

variable {P : Content → Prop}

theorem after (hP : Invariant P) (h : P c) (command : Command) : P (c.after command) := by
  have htold {c c' : Content} (h : P c) (hsettings : c'.settings = c.settings := by rfl)
      (hselector : c'.selector = c.selector := by rfl)
      (hselection : c'.selection = c.selection := by rfl)
      (hpools : c'.pools = c.pools := by rfl) : P c' :=
    hP.told h hsettings hselector hselection hpools
  cases command with
  | setBars bars =>
    change P (c.withBars bars)
    unfold withBars
    dsimp only
    split
    · exact hP.refreshed (hP.forgotten (htold h))
    · exact hP.refreshed (htold h)
  | updateBar bar =>
    change P (c.withBar bar)
    unfold withBar
    split
    · exact h
    · dsimp only
      split
      · exact hP.refreshed (htold h)
      · exact htold h
  | previewBar bar =>
    change P (c.withPreview bar)
    unfold withPreview
    split
    · exact htold h
    · exact h
  | setZones zones => exact hP.refreshed (htold h)
  | mergeZone zone => exact hP.refreshed (htold h)
  | setPools pools => exact hP.pooled pools h
  | setView view =>
    change P (c.withView view)
    unfold withView
    split
    · exact h
    · exact hP.refreshed (htold h)
  | setLimit limit =>
    change P (c.withLimit limit)
    unfold withLimit
    split
    · exact h
    · exact hP.refreshed (htold h)
  | clearPreview => exact htold h
  | dispose => exact htold (hP.forgotten h)
  | _ => exact h

theorem step (hP : Invariant P) (h : P c) (command : Command) : P (c.step command) := by
  unfold Content.step
  split
  · exact h
  · exact hP.after h command

end Invariant

/-! ## The settings of the selection -/

/-- The zones are selected by the rules of the settings. -/
def Ruled (c : Content) : Prop := c.selector.rules = c.settings.zones

/-- No command changes settings or rules. -/
theorem ruled_invariant : Invariant Ruled where
  told h hsettings hselector _ _ := by
    unfold Ruled
    rw [hsettings, hselector]
    exact h
  refreshed {c} h := by
    have hrules : (c.selector.select c.zones c.bars c.view c.limit).2.rules = c.selector.rules := by
      unfold Selector.select
      split <;> rfl
    exact hrules.trans h
  forgotten h := h
  pooled _ h := h

theorem Ruled.step (h : c.Ruled) (command : Command) : (c.step command).Ruled :=
  ruled_invariant.step h command

/-! ## The end -/

/-- Only the end of a layer ends it. -/
theorem disposed_after (c : Content) {command : Command} (h : command ≠ .dispose) :
    (c.after command).disposed = c.disposed := by
  cases command with
  | setBars bars =>
    change (c.withBars bars).disposed = c.disposed
    unfold withBars
    dsimp only
    split <;> rfl
  | updateBar bar =>
    change (c.withBar bar).disposed = c.disposed
    unfold withBar
    split
    · rfl
    · dsimp only
      split <;> rfl
  | previewBar bar =>
    change (c.withPreview bar).disposed = c.disposed
    unfold withPreview
    split <;> rfl
  | setView view =>
    change (c.withView view).disposed = c.disposed
    unfold withView
    split <;> rfl
  | setLimit limit =>
    change (c.withLimit limit).disposed = c.disposed
    unfold withLimit
    split <;> rfl
  | dispose => exact absurd rfl h
  | _ => rfl

end Content

namespace Layer

variable {σ : Type}

def content (l : Layer σ) : Content :=
  { settings := l.settings
    bars := l.bars
    selector := l.selector
    zones := l.zones
    pools := l.pools
    selection := l.selection
    view := l.view
    limit := l.limit
    disposed := l.disposed }

@[simp] theorem content_bars (l : Layer σ) : l.content.bars = l.bars := rfl

@[simp] theorem content_view (l : Layer σ) : l.content.view = l.view := rfl

@[simp] theorem content_limit (l : Layer σ) : l.content.limit = l.limit := rfl

@[simp] theorem content_disposed (l : Layer σ) : l.content.disposed = l.disposed := rfl

@[simp] theorem content_report (issues : List Issue) (l : Layer σ) :
    (l.report issues).content = l.content := rfl

@[simp] theorem content_onSurface (f : σ → σ) (l : Layer σ) :
    (l.onSurface f).content = l.content := rfl

/-- The zones selected anew, and nothing drawn yet. -/
def reselected (l : Layer σ) : Layer σ :=
  let selected := l.selector.select l.zones l.bars l.view l.limit
  { l with selection := selected.1, selector := selected.2 }.report (Selector.issues l.zones)

theorem content_reselected (l : Layer σ) : l.reselected.content = l.content.refreshed := rfl

variable [Surface σ] (l : Layer σ)

/-! ## Steps that operations share -/

@[simp] theorem content_askFrameIf (needed : Bool) :
    (l.askFrameIf needed).content = l.content := by
  cases needed <;> rfl

@[simp] theorem content_scheduleLabels : l.scheduleLabels.content = l.content :=
  content_askFrameIf _ _

@[simp] theorem content_reconcile (family : DrawingFamily) (desired : DesiredDrawings) :
    (l.reconcile family desired).2.content = l.content := rfl

@[simp] theorem content_restoreTimes (times : Option TimeSpan) :
    (l.restoreTimes times).content = l.content := by
  unfold restoreTimes
  split
  · rfl
  · split <;> rfl

@[simp] theorem content_keepingTimes (change : Layer σ → Layer σ) :
    (keepingTimes change l).content = (change l).content :=
  content_restoreTimes _ _

/-- The selection drawn. -/
def drawSelection : Changes × Layer σ :=
  l.reconcile .zone (drawingsOf ZoneCluster.id Drawing.ofCluster l.selection.clusters)

/-- The zones are selected anew, and the selection is drawn. The labels are scheduled, unless
nothing is selected and the surface had nothing to change. -/
theorem refresh_cases :
    l.reselected.drawSelection.1.isEmpty = true ∧ l.reselected.selection.isEmpty = true ∧
        l.refresh = l.reselected.drawSelection.2 ∨
      l.refresh = l.reselected.drawSelection.2.scheduleLabels := by
  by_cases hskip : (l.reselected.drawSelection.1.isEmpty && l.reselected.selection.isEmpty &&
      l.reselected.drawSelection.2.labels.placed.isEmpty) = true
  · have hsame : l.refresh = l.reselected.drawSelection.2 := if_pos hskip
    rw [Bool.and_eq_true, Bool.and_eq_true] at hskip
    exact Or.inl ⟨hskip.1.1, hskip.1.2, hsame⟩
  · exact Or.inr (if_neg hskip)

theorem content_refresh : l.refresh.content = l.content.refreshed := by
  rcases refresh_cases l with ⟨-, -, heq⟩ | heq <;> rw [heq]
  · exact content_reselected l
  · exact (content_scheduleLabels _).trans (content_reselected l)

theorem content_drawBars : l.drawBars.content = l.content.refreshed :=
  content_refresh _

/-! ## The reader's hand -/

@[simp] theorem content_carryOut (effect : GestureEffect) :
    (l.carryOut effect).content = l.content := by
  obtain ⟨rangeChanged, surfacePan, resyncTimeAxis, deferred⟩ := effect
  unfold carryOut
  cases rangeChanged <;> cases surfacePan <;> cases resyncTimeAxis <;> cases deferred <;>
    simp only [if_true, if_false, Bool.false_eq_true, content_onSurface, content_scheduleLabels] <;>
    rfl

@[simp] theorem content_passGesture (g : Gesture Float) :
    (l.passGesture g).content = l.content :=
  content_carryOut _ _

@[simp] theorem content_settleWheel : l.settleWheel.content = l.content := by
  unfold settleWheel
  split
  · exact content_passGesture _ _
  · rfl

@[simp] theorem content_settlePointer : l.settlePointer.content = l.content := by
  unfold settlePointer
  split
  · exact content_passGesture _ _
  · rfl

@[simp] theorem content_pushPointer (spot : PointerSpot) :
    (l.pushPointer spot).content = l.content :=
  content_askFrameIf _ _

@[simp] theorem content_pushWheel (turn : WheelTurn) :
    (l.pushWheel turn).content = l.content := by
  have hsettled (mismatch : Bool) :
      (if mismatch then l.settleWheel else l).content = l.content := by
    cases mismatch
    · rfl
    · exact content_settleWheel l
  unfold pushWheel
  exact (content_askFrameIf _ _).trans (hsettled _)

@[simp] theorem content_gesture (g : Gesture Float) : (l.gesture g).content = l.content := by
  cases g <;> simp [gesture]

/-! ## Frames and the pane -/

@[simp] theorem content_showLabels : l.showLabels.content = l.content := by
  unfold showLabels
  split
  · rfl
  · split
    · rfl
    · exact content_scheduleLabels _

@[simp] theorem content_settleLabels : l.settleLabels.content = l.content := by
  unfold settleLabels
  split
  · rfl
  · dsimp only
    split
    · exact content_showLabels _
    · rfl

@[simp] theorem content_retryGesture : l.retryGesture.content = l.content := by
  unfold retryGesture
  split
  · dsimp only
    split
    · exact content_carryOut _ _
    · rfl
  · rfl

@[simp] theorem content_frame : l.frame.content = l.content := by
  simp [frame]

@[simp] theorem content_resize : l.resize.2.content = l.content := by
  unfold resize
  split
  · exact content_scheduleLabels _
  · rfl

@[simp] theorem content_resetView : l.resetView.content = l.content :=
  content_scheduleLabels _

/-! ## Deliveries -/

theorem content_setBars (bars : List Bar) : (l.setBars bars).content = l.content.withBars bars := by
  unfold setBars Content.withBars
  rw [content_bars]
  dsimp only
  split
  · exact content_drawBars _
  · exact (content_keepingTimes _ _).trans (content_drawBars _)

/-- The layer with a bar in its series and on the surface. -/
def takeBar (bar : Bar) : Layer σ :=
  { l with bars := (l.bars.updateLast bar).2 }.onSurface (Surface.showBar bar)

/-- A bar is rejected, or taken, and a bar that is taken may have the zones selected anew. -/
theorem updateBar_cases (bar : Bar) :
    l.updateBar bar = l.report [rejectedUpdate bar] ∨ l.updateBar bar = l.takeBar bar ∨
      l.updateBar bar = (l.takeBar bar).refresh := by
  unfold updateBar takeBar
  obtain ⟨update, series⟩ := l.bars.updateLast bar
  cases update with
  | rejected => exact Or.inl rfl
  | replaced | appended =>
    dsimp only
    split
    · exact Or.inr (Or.inr rfl)
    · exact Or.inr (Or.inl rfl)

theorem content_updateBar (bar : Bar) : (l.updateBar bar).content = l.content.withBar bar := by
  unfold updateBar Content.withBar
  rw [content_bars]
  obtain ⟨update, series⟩ := l.bars.updateLast bar
  cases update with
  | rejected => rfl
  | replaced | appended =>
    dsimp only
    split
    · exact content_refresh _
    · rfl

theorem content_previewBar (bar : Bar) :
    (l.previewBar bar).content = l.content.withPreview bar := by
  unfold previewBar Content.withPreview
  rw [content_bars]
  obtain ⟨taken, series⟩ := l.bars.setLive bar
  cases taken <;> rfl

theorem content_setView (view : Option Timeframe) :
    (l.setView view).content = l.content.withView view := by
  unfold setView Content.withView
  rw [content_view]
  split
  · rfl
  · exact content_refresh _

theorem content_setLimit (limit : LimitMode) :
    (l.setLimit limit).content = l.content.withLimit limit := by
  unfold setLimit Content.withLimit
  rw [content_limit]
  split
  · rfl
  · exact content_refresh _

/-- **One command.** What is known after it depends on nothing but what was known before. -/
theorem content_performLive (c : Command) :
    (l.performLive c).2.content = l.content.after c := by
  cases c with
  | setBars bars => exact content_setBars l bars
  | updateBar bar => exact content_updateBar l bar
  | previewBar bar => exact content_previewBar l bar
  | clearPreview => rfl
  | priceTick price =>
    change (l.priceTick price).content = l.content
    unfold priceTick
    split <;> rfl
  | setZones zones => exact (content_keepingTimes _ _).trans (content_refresh _)
  | mergeZone zone => exact content_refresh _
  | setPools pools => exact (content_keepingTimes _ _).trans (content_scheduleLabels _)
  | setLevels levels timeframe tickSize =>
    exact (content_keepingTimes _ _).trans (content_reconcile _ _ _)
  | setSessions sessions => exact (content_keepingTimes _ _).trans (content_reconcile _ _ _)
  | setView view => exact content_setView l view
  | setLimit limit => exact content_setLimit l limit
  | gesture g => exact content_gesture l g
  | viewportChanged => exact content_scheduleLabels l
  | resize => exact content_resize l
  | resetView => exact content_resetView l
  | autoscale base => rfl
  | report issues => exact content_report issues l
  | frame => exact content_frame l
  | dispose => rfl

/-- A layer that has ended learns nothing. -/
theorem content_step (c : Command) : (l.step c).content = l.content.step c := by
  unfold step perform Content.step
  rw [content_disposed]
  split
  · cases c <;> rfl
  · exact content_performLive l c

/-- **Any number of commands.** -/
theorem content_run (commands : List Command) (l : Layer σ) :
    (l.run commands).content = l.content.run commands := by
  induction commands generalizing l with
  | nil => rfl
  | cons c rest ih =>
    have hrest := ih (l.step c)
    rw [content_step] at hrest
    exact hrest

/-! ## Beginning and end -/

omit [Surface σ] in
/-- A layer that was just made knows its settings and nothing else. -/
def fresh (surface : σ) (settings : Settings) : Layer σ where
  surface := surface
  settings := settings
  scale := { rules := settings.gestures }
  selector := { rules := settings.zones }
  log := { interval := settings.reportInterval * 1000 }
  view := settings.view
  limit := settings.zones.limit

omit [Surface σ] in
theorem eq_fresh_of_create? {surface : σ} {settings : Settings} {l : Layer σ}
    (h : create? surface settings = .ok l) : l = fresh surface settings := by
  unfold create? at h
  cases hvalid : settings.validate with
  | error fault =>
    rw [hvalid] at h
    cases h
  | ok =>
    rw [hvalid] at h
    cases h
    rfl

/-- The end is final. -/
theorem disposed_step {l : Layer σ} (h : l.disposed = true) (c : Command) :
    (l.step c).disposed = true := by
  unfold step perform
  rw [if_pos h]
  cases c <;> exact h

theorem step_of_live {l : Layer σ} (h : l.disposed = false) (c : Command) :
    l.step c = (l.performLive c).2 := by
  unfold step perform
  rw [if_neg (by rw [h]; exact Bool.false_ne_true)]

/-- Only one command ends a layer. -/
theorem eq_dispose_of_disposed {l : Layer σ} (hlive : l.disposed = false) {c : Command}
    (h : (l.performLive c).2.disposed = true) : c = .dispose := by
  refine Classical.byContradiction fun hc => ?_
  have hkept : (l.performLive c).2.disposed = l.disposed := by
    rw [← content_disposed, content_performLive, Content.disposed_after _ hc, content_disposed]
  exact Bool.false_ne_true (hlive.symm.trans (hkept.symm.trans h))

/-- Before its end a layer has not ended. -/
theorem live_of_step {l : Layer σ} {c : Command} (h : (l.step c).disposed = false) :
    l.disposed = false := by
  cases hdisposed : l.disposed with
  | false => rfl
  | true =>
    rw [disposed_step hdisposed c] at h
    cases h

end Layer

end ChartLayer
