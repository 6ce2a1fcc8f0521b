import ChartLayer.Proofs.Drawing.Backdrop
import ChartLayer.Proofs.Layer.Content
import ChartLayer.Proofs.Layer.Held

/-!
# What leaves the reader's hand alone

Bars, zones, pools, levels, sessions, views and labels have nothing to do with what the reader does
with pointer and wheel: no delivery touches the price scale, the gestures that wait, or the pan of
the surface, and none takes back the request for a frame. `Layer.KeepsHand` says so of two layers,
before and after; each operation that only shows something has one lemma here.

* `keepsHand_performLive`: every such command.
* `keepsHand_setBars`, `keepsHand_switch`: a history keeps the hand, and after a change of the
  dataset it keeps that of a layer that has forgotten all.
-/

namespace ChartLayer

/-! ## Work that a frame will do -/

/-- What waits has asked for a frame, and the frame is still to come. -/
structure Coalesced.Awaited {α : Type} (coming : Bool) (t : Coalesced α) : Prop where
  asked : t.pending.isSome = true → t.scheduled = true
  coming : t.scheduled = true → coming = true

namespace Coalesced

variable {α : Type} {coming : Bool} {t : Coalesced α}

theorem awaited_empty (coming : Bool) : ({} : Coalesced α).Awaited coming where
  asked h := nomatch h
  coming h := nomatch h

theorem Awaited.mono (h : t.Awaited coming) {later : Bool} (hlater : coming = true → later = true) :
    t.Awaited later where
  asked := h.asked
  coming hscheduled := hlater (h.coming hscheduled)

theorem Awaited.or (h : t.Awaited coming) (asks : Bool) : t.Awaited (asks || coming) :=
  h.mono fun hcoming => by rw [hcoming, Bool.or_true]

/-- A payload that does not ask for a frame itself rides along with one that has. -/
theorem Awaited.push (h : t.Awaited coming) (payload : α) :
    (t.push payload).2.Awaited ((t.push payload).1 || coming) where
  asked _ := rfl
  coming _ := by
    cases hscheduled : t.scheduled with
    | false => simp [Coalesced.push, hscheduled]
    | true => rw [h.coming hscheduled, Bool.or_true]

theorem Awaited.accumulate (h : t.Awaited coming) (merge : α → α → α) (payload : α) :
    (t.accumulate merge payload).2.Awaited ((t.accumulate merge payload).1 || coming) where
  asked _ := rfl
  coming := (h.push payload).coming

/-- Where no frame is to come, nothing waits. -/
theorem Awaited.pending_eq_none (h : t.Awaited false) : t.pending = none := by
  cases hpending : t.pending with
  | none => rfl
  | some payload =>
    have hcoming := h.coming (h.asked (by rw [hpending]; rfl))
    cases hcoming

/-- The frame comes all the same. -/
theorem Awaited.cancel (h : t.Awaited coming) : t.cancel.Awaited coming where
  asked hpending := nomatch hpending
  coming := h.coming

end Coalesced

namespace Layer

/-- What the reader's hand has to do with. -/
structure Hand where
  scale : PriceScale Float
  wheel : Coalesced WheelTurn
  pointer : Coalesced PointerSpot
  relayout : Coalesced Nat
  retryDue : Bool
  panEnabled : Bool
  framePending : Bool

def hand (l : Layer MemorySurface) : Hand where
  scale := l.scale
  wheel := l.wheel
  pointer := l.pointer
  relayout := l.relayout
  retryDue := l.gestureRetryDue
  panEnabled := l.surface.panEnabled
  framePending := l.surface.framePending

/-- The hand is as before, except that a frame may have been asked for, to place the labels in it.
-/
structure KeepsHand (l l' : Layer MemorySurface) : Prop where
  scale : l'.scale = l.scale
  wheel : l'.wheel = l.wheel
  pointer : l'.pointer = l.pointer
  retryDue : l'.gestureRetryDue = l.gestureRetryDue
  pan : l'.surface.panEnabled = l.surface.panEnabled
  frame : l.surface.framePending = true → l'.surface.framePending = true
  relayout : l.relayout.Awaited l.surface.framePending →
    l'.relayout.Awaited l'.surface.framePending

variable {l l' l'' : Layer MemorySurface}

theorem KeepsHand.refl (l : Layer MemorySurface) : KeepsHand l l :=
  ⟨rfl, rfl, rfl, rfl, rfl, id, id⟩

theorem KeepsHand.trans (h : KeepsHand l l') (h' : KeepsHand l' l'') : KeepsHand l l'' where
  scale := h'.scale.trans h.scale
  wheel := h'.wheel.trans h.wheel
  pointer := h'.pointer.trans h.pointer
  retryDue := h'.retryDue.trans h.retryDue
  pan := h'.pan.trans h.pan
  frame := h'.frame ∘ h.frame
  relayout := h'.relayout ∘ h.relayout

/-- Nothing that counts is different. -/
theorem KeepsHand.of_eq (h : l'.hand = l.hand) : KeepsHand l l' := by
  obtain ⟨hscale, hwheel, hpointer, hrelayout, hretry, hpan, hframe⟩ := Hand.mk.inj h
  exact
    { scale := hscale
      wheel := hwheel
      pointer := hpointer
      retryDue := hretry
      pan := hpan
      frame := fun hpending => by rwa [hframe]
      relayout := fun hawaited => by rwa [hrelayout, hframe] }

/-! ## Steps that operations share -/

variable (l)

theorem framePending_askFrameIf (needed : Bool) :
    (l.askFrameIf needed).surface.framePending = (needed || l.surface.framePending) := by
  cases needed <;> rfl

theorem keepsHand_scheduleLabels : KeepsHand l l.scheduleLabels := by
  unfold scheduleLabels
  dsimp only
  constructor
  case frame =>
    intro hpending
    rw [framePending_askFrameIf, Bool.or_eq_true]
    exact Or.inr hpending
  case relayout =>
    intro h
    rw [framePending_askFrameIf]
    unfold askFrameIf
    split <;> exact h.push l.generation
  all_goals
    unfold askFrameIf
    split <;> rfl

theorem keepsHand_report (issues : List Issue) : KeepsHand l (l.report issues) :=
  .of_eq rfl

theorem keepsHand_reconcile (family : DrawingFamily) (desired : DesiredDrawings) :
    KeepsHand l (l.reconcile family desired).2 := by
  have hbackdrop : (l.reconcile family desired).2.surface.backdrop = l.surface.backdrop :=
    Registry.backdrop_reconcile family desired l.registry l.surface
  refine .of_eq ?_
  unfold hand
  rw [MemorySurface.panEnabled_eq_of_backdrop hbackdrop,
    MemorySurface.framePending_eq_of_backdrop hbackdrop]
  rfl

theorem keepsHand_restoreTimes (times : Option TimeSpan) : KeepsHand l (l.restoreTimes times) := by
  unfold restoreTimes
  split
  · exact .refl l
  · split <;> exact .of_eq rfl

theorem keepsHand_fitTimes : KeepsHand l (l.onSurface Surface.fitTimes) :=
  .of_eq rfl

theorem keepsHand_keepingTimes {change : Layer MemorySurface → Layer MemorySurface}
    (h : KeepsHand l (change l)) : KeepsHand l (keepingTimes change l) :=
  h.trans (keepsHand_restoreTimes _ _)

theorem keepsHand_refresh : KeepsHand l l.refresh := by
  have hselected : KeepsHand l l.reselected := .of_eq rfl
  have hdrawn : KeepsHand l l.reselected.drawSelection.2 :=
    hselected.trans (keepsHand_reconcile _ _ _)
  rcases refresh_cases l with ⟨-, -, heq⟩ | heq <;> rw [heq]
  · exact hdrawn
  · exact hdrawn.trans (keepsHand_scheduleLabels _)

theorem keepsHand_drawBars : KeepsHand l l.drawBars := by
  have hshown : KeepsHand l (l.onSurface (Surface.showBars l.bars.bars)) :=
    .of_eq rfl
  exact hshown.trans (keepsHand_refresh _)

/-! ## Bars -/

/-- The layer with the bars of a new history, before anything is done with them. -/
def takeBars (bars : List Bar) (l : Layer MemorySurface) : Layer MemorySurface :=
  ({ l with bars := (l.bars.setBars bars).2 } : Layer MemorySurface).report
    (l.bars.setBars bars).1.issues

theorem setBars_of_same {bars : List Bar} (h : (l.bars.setBars bars).1.datasetChanged = false) :
    l.setBars bars = (l.takeBars bars).keepingTimes drawBars := by
  unfold setBars
  dsimp only
  rw [if_neg (by rw [h]; exact Bool.false_ne_true)]
  rfl

theorem setBars_of_changed {bars : List Bar} (h : (l.bars.setBars bars).1.datasetChanged = true) :
    l.setBars bars = (l.takeBars bars).forgetDataset.drawBars.onSurface Surface.fitTimes := by
  unfold setBars
  dsimp only
  rw [if_pos h]
  rfl

/-- **More bars of the dataset.** -/
theorem keepsHand_setBars {bars : List Bar}
    (h : (l.bars.setBars bars).1.datasetChanged = false) : KeepsHand l (l.setBars bars) := by
  rw [setBars_of_same l h]
  have htaken : KeepsHand l (l.takeBars bars) := .of_eq rfl
  exact htaken.trans (keepsHand_keepingTimes _ (keepsHand_drawBars _))

/-- **Another dataset.** The hand is that of the layer that has just forgotten the old one. -/
theorem keepsHand_switch {bars : List Bar}
    (h : (l.bars.setBars bars).1.datasetChanged = true) :
    KeepsHand (l.takeBars bars).forgetDataset (l.setBars bars) := by
  rw [setBars_of_changed l h]
  exact (keepsHand_drawBars _).trans (keepsHand_fitTimes _)

/-- Taking the drawings of a dataset away leaves its request for a frame. -/
theorem framePending_forgetDataset :
    l.forgetDataset.surface.framePending = l.surface.framePending := by
  have hcleared := Registry.backdrop_clearAll l.registry l.surface
  have hframe := MemorySurface.framePending_eq_of_backdrop hcleared
  exact hframe

theorem keepsHand_updateBar (bar : Bar) : KeepsHand l (l.updateBar bar) := by
  have htaken : KeepsHand l (l.takeBar bar) := .of_eq rfl
  rcases l.updateBar_cases bar with heq | heq | heq <;> rw [heq]
  · exact keepsHand_report l _
  · exact htaken
  · exact htaken.trans (keepsHand_refresh _)

theorem keepsHand_previewBar (bar : Bar) : KeepsHand l (l.previewBar bar) := by
  unfold previewBar
  split <;> exact .of_eq rfl

theorem keepsHand_priceTick (price : Float) : KeepsHand l (l.priceTick price) := by
  unfold priceTick
  split <;> exact .of_eq rfl

/-! ## Zones, pools, levels and sessions -/

theorem keepsHand_setZones (zones : List Zone) : KeepsHand l (l.setZones zones) := by
  have hzones : KeepsHand l { l with zones } := .of_eq rfl
  exact keepsHand_keepingTimes l (hzones.trans (keepsHand_refresh _))

theorem keepsHand_mergeZone (zone : Zone) : KeepsHand l (l.mergeZone zone) := by
  have hzones : KeepsHand l { l with zones := putZone zone l.zones } :=
    .of_eq rfl
  exact hzones.trans (keepsHand_refresh _)

theorem keepsHand_setView (view : Option Timeframe) : KeepsHand l (l.setView view) := by
  have hview : KeepsHand l { l with view } := .of_eq rfl
  unfold setView
  split
  · exact .refl l
  · exact hview.trans (keepsHand_refresh _)

theorem keepsHand_setLimit (limit : LimitMode) : KeepsHand l (l.setLimit limit) := by
  have hlimit : KeepsHand l { l with limit } := .of_eq rfl
  unfold setLimit
  split
  · exact .refl l
  · exact hlimit.trans (keepsHand_refresh _)

theorem keepsHand_setPools (pools : List Pool) : KeepsHand l (l.setPools pools) := by
  let kept := lastOfEach Pool.id (pools.filter Pool.isFinite)
  let taken := ({ l with pools := kept } : Layer MemorySurface).report (poolIssues pools)
  have htaken : KeepsHand l taken := .of_eq rfl
  have hdrawn := htaken.trans (keepsHand_reconcile taken .pool
    (drawingsOf Pool.id Drawing.ofPool kept))
  exact keepsHand_keepingTimes l (hdrawn.trans (keepsHand_scheduleLabels _))

theorem keepsHand_setLevels (levels : List Level) (timeframe : Option Timeframe)
    (tickSize : Float) : KeepsHand l (l.setLevels levels timeframe tickSize) :=
  keepsHand_keepingTimes l ((keepsHand_report l _).trans (keepsHand_reconcile _ _ _))

theorem keepsHand_setSessions (sessions : List Session) : KeepsHand l (l.setSessions sessions) :=
  keepsHand_keepingTimes l ((keepsHand_report l _).trans (keepsHand_reconcile _ _ _))

/-! ## Labels and the pane -/

/-- Placing the labels keeps the hand. -/
theorem keepsHand_showLabels : KeepsHand l l.showLabels := by
  unfold showLabels
  split
  · exact .of_eq rfl
  · split
    · exact .of_eq rfl
    · have hnoted : KeepsHand l { l with labelRetryUsed := true } :=
        .of_eq rfl
      exact hnoted.trans (keepsHand_scheduleLabels _)

/-- Once their task is empty, settling the labels keeps the hand. -/
theorem keepsHand_settleLabels : KeepsHand { l with relayout := {} } l.settleLabels := by
  unfold settleLabels
  split <;> rename_i heq <;> obtain ⟨-, rfl⟩ := Prod.mk.inj heq
  · exact .refl _
  · dsimp only
    split
    · exact keepsHand_showLabels _
    · exact .of_eq rfl

theorem keepsHand_resize : KeepsHand l l.resize.2 := by
  unfold resize
  split
  · rename_i width height _
    have hsized : KeepsHand l (l.onSurface (Surface.applySize width height)) :=
      .of_eq rfl
    exact hsized.trans (keepsHand_scheduleLabels _)
  · exact .refl l

/-! ## Effects -/

/-- What an effect means for the hand: whether the pan is on, and whether a retry is due, for which
a frame is asked. -/
def affected (effect : GestureEffect) (l : Layer MemorySurface) : Layer MemorySurface :=
  { l with
    gestureRetryDue := effect.deferred || l.gestureRetryDue
    surface := { l.surface with
      panEnabled := effect.surfacePan.getD l.surface.panEnabled
      framePending := effect.deferred || l.surface.framePending } }

/-- **Effects.** Beyond that, carrying out an effect leaves the hand alone. -/
theorem keepsHand_carryOut (effect : GestureEffect) :
    KeepsHand (l.affected effect) (l.carryOut effect) := by
  have hrange (l : Layer MemorySurface) (changed : Bool) :
      KeepsHand l
        (if changed then (l.onSurface Surface.invalidatePrices).scheduleLabels else l) := by
    cases changed
    · exact .refl l
    · have hasked : KeepsHand l (l.onSurface Surface.invalidatePrices) :=
        .of_eq rfl
      exact hasked.trans (keepsHand_scheduleLabels _)
  have hsync (l : Layer MemorySurface) (resync : Bool) :
      KeepsHand l (if resync then l.onSurface Surface.syncTimeAxis else l) := by
    cases resync
    · exact .refl l
    · exact .of_eq rfl
  unfold carryOut
  refine KeepsHand.trans ?_ ((hrange _ _).trans (hsync _ _))
  obtain ⟨rangeChanged, surfacePan, resyncTimeAxis, deferred⟩ := effect
  cases deferred <;> cases surfacePan <;> exact .of_eq rfl

end Layer

/-! ## Any such command -/

/-- Whether a command only shows something: it neither comes from the reader's hand nor ends a
dataset. -/
def Command.onlyShows : Command → Bool
  | .setBars _ | .gesture _ | .resetView | .autoscale _ | .frame | .dispose => false
  | _ => true

/-- **Frame.** A command that only shows something leaves the reader's hand alone. -/
theorem Layer.keepsHand_performLive (l : Layer MemorySurface) {c : Command}
    (hc : c.onlyShows = true) : KeepsHand l (l.performLive c).2 := by
  cases c with
  | updateBar bar => exact keepsHand_updateBar l bar
  | previewBar bar => exact keepsHand_previewBar l bar
  | clearPreview => exact .of_eq rfl
  | priceTick price => exact keepsHand_priceTick l price
  | setZones zones => exact keepsHand_setZones l zones
  | mergeZone zone => exact keepsHand_mergeZone l zone
  | setPools pools => exact keepsHand_setPools l pools
  | setLevels levels timeframe tickSize => exact keepsHand_setLevels l levels timeframe tickSize
  | setSessions sessions => exact keepsHand_setSessions l sessions
  | setView view => exact keepsHand_setView l view
  | setLimit limit => exact keepsHand_setLimit l limit
  | viewportChanged => exact keepsHand_scheduleLabels l
  | resize => exact keepsHand_resize l
  | report issues => exact keepsHand_report l issues
  | setBars _ | gesture _ | resetView | autoscale _ | frame | dispose => cases hc

end ChartLayer
