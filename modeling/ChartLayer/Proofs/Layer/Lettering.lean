import ChartLayer.Proofs.Drawing.Backdrop
import ChartLayer.Proofs.Layer.Held
import ChartLayer.Proofs.Layer.Relayout
import ChartLayer.Surface.Memory

/-!
# What leaves the labels alone

Only a frame places labels, and only another dataset or the end of a layer takes them away. Every
other operation leaves them where they are, and at most has them placed anew in the next frame.
`Layer.KeepsLabels` says so of two layers, before and after.

* `keepsLabels_reconcile`, `keepsLabels_scheduleLabels`, …: the steps that operations share.
* `keepsLabels_gesture`, `keepsLabels_untilLabels`: the reader's hand, and a frame up to its labels.
* `keepsLabels_performLive`: every command that neither changes what is selected nor runs a frame.
-/

namespace ChartLayer.Layer

/-- What labels have to do with: those wanted, those placed, those on the surface, and the dataset
for which they are due. -/
structure Lettering where
  wanted : List (LabelRequest Float)
  labels : LabelLayout Float
  shown : LabelLayout Float
  due : Option Nat
  generation : Nat

def lettering (l : Layer MemorySurface) : Lettering where
  wanted := l.labelRequests
  labels := l.labels
  shown := l.surface.labels
  due := l.relayout.pending
  generation := l.generation

/-- The labels are as before, except that they may be due now. -/
structure KeepsLabels (l l' : Layer MemorySurface) : Prop where
  wanted : l'.labelRequests = l.labelRequests
  labels : l'.labels = l.labels
  shown : l'.surface.labels = l.surface.labels
  generation : l'.generation = l.generation
  due : l'.relayout.pending = l.relayout.pending ∨ l'.relayout.pending = some l.generation

variable {l l' l'' : Layer MemorySurface}

theorem KeepsLabels.refl (l : Layer MemorySurface) : KeepsLabels l l :=
  ⟨rfl, rfl, rfl, rfl, Or.inl rfl⟩

theorem KeepsLabels.of_eq (h : l'.lettering = l.lettering) : KeepsLabels l l' := by
  obtain ⟨hwanted, hlabels, hshown, hdue, hgeneration⟩ := Lettering.mk.inj h
  exact ⟨hwanted, hlabels, hshown, hgeneration, Or.inl hdue⟩

theorem KeepsLabels.trans (h : KeepsLabels l l') (h' : KeepsLabels l' l'') :
    KeepsLabels l l'' where
  wanted := h'.wanted.trans h.wanted
  labels := h'.labels.trans h.labels
  shown := h'.shown.trans h.shown
  generation := h'.generation.trans h.generation
  due := by
    have hafter := h'.due
    rw [h.generation] at hafter
    rcases hafter with hsame | hdue
    · rw [hsame]
      exact h.due
    · exact Or.inr hdue

variable (l)

/-! ## Steps that operations share -/

theorem lettering_askFrameIf (needed : Bool) : (l.askFrameIf needed).lettering = l.lettering := by
  cases needed <;> rfl

theorem keepsLabels_scheduleLabels : KeepsLabels l l.scheduleLabels := by
  have hlettering : l.scheduleLabels.lettering =
      ({ l with relayout := ⟨some l.generation, true⟩ } : Layer MemorySurface).lettering :=
    lettering_askFrameIf _ _
  obtain ⟨hwanted, hlabels, hshown, hdue, hgeneration⟩ := Lettering.mk.inj hlettering
  exact ⟨hwanted, hlabels, hshown, hgeneration, Or.inr hdue⟩

theorem keepsLabels_reconcile (family : DrawingFamily) (desired : DesiredDrawings) :
    KeepsLabels l (l.reconcile family desired).2 := by
  have hbackdrop : (l.reconcile family desired).2.surface.backdrop = l.surface.backdrop :=
    Registry.backdrop_reconcile family desired l.registry l.surface
  exact ⟨rfl, rfl, MemorySurface.labels_eq_of_backdrop hbackdrop, rfl, Or.inl rfl⟩

theorem keepsLabels_restoreTimes (times : Option TimeSpan) :
    KeepsLabels l (l.restoreTimes times) := by
  unfold restoreTimes
  split
  · exact .refl l
  · split <;> exact .of_eq rfl

theorem keepsLabels_keepingTimes {change : Layer MemorySurface → Layer MemorySurface}
    (h : KeepsLabels l (change l)) : KeepsLabels l (keepingTimes change l) :=
  h.trans (keepsLabels_restoreTimes _ _)

/-! ## The reader's hand -/

theorem keepsLabels_carryOut (effect : GestureEffect) : KeepsLabels l (l.carryOut effect) := by
  have hrange (l : Layer MemorySurface) (changed : Bool) :
      KeepsLabels l
        (if changed then (l.onSurface Surface.invalidatePrices).scheduleLabels else l) := by
    cases changed with
    | false => exact .refl l
    | true =>
      have hasked : KeepsLabels l (l.onSurface Surface.invalidatePrices) := .of_eq rfl
      exact hasked.trans (keepsLabels_scheduleLabels _)
  have hsync (l : Layer MemorySurface) (resync : Bool) :
      KeepsLabels l (if resync then l.onSurface Surface.syncTimeAxis else l) := by
    cases resync <;> exact .of_eq rfl
  unfold carryOut
  refine KeepsLabels.trans ?_ ((hrange _ _).trans (hsync _ _))
  obtain ⟨rangeChanged, surfacePan, resyncTimeAxis, deferred⟩ := effect
  cases deferred <;> cases surfacePan <;> exact .of_eq rfl

theorem keepsLabels_passGesture (g : Gesture Float) : KeepsLabels l (l.passGesture g) := by
  have hhandled : KeepsLabels l
      { l with scale := (l.scale.handle g (Surface.priceMap l.surface)).2 } := .of_eq rfl
  exact hhandled.trans (keepsLabels_carryOut _ _)

theorem keepsLabels_settleWheel : KeepsLabels l l.settleWheel := by
  have htaken : KeepsLabels l { l with wheel := {} } := .of_eq rfl
  rcases settleWheel_cases l with heq | ⟨turn, -, heq⟩ <;> rw [heq]
  · exact htaken
  · exact htaken.trans (keepsLabels_passGesture _ _)

theorem keepsLabels_settlePointer : KeepsLabels l l.settlePointer := by
  have htaken : KeepsLabels l { l with pointer := {} } := .of_eq rfl
  rcases settlePointer_cases l with heq | ⟨spot, -, heq⟩ <;> rw [heq]
  · exact htaken
  · exact htaken.trans (keepsLabels_passGesture _ _)

theorem keepsLabels_gesture (g : Gesture Float) : KeepsLabels l (l.gesture g) := by
  cases g with
  | pointerMove x y => exact .of_eq (lettering_askFrameIf _ _)
  | wheel y delta modifier region =>
    obtain ⟨ready, hready, heq⟩ := pushWheel_cases l ⟨y, delta, modifier, region⟩
    have hkeeps : KeepsLabels l ready := by
      rcases hready with rfl | rfl
      · exact .refl _
      · exact keepsLabels_settleWheel l
    change KeepsLabels l (l.pushWheel ⟨y, delta, modifier, region⟩)
    rw [heq]
    exact hkeeps.trans (.of_eq (lettering_askFrameIf _ _))
  | pointerDown | pointerUp | pointerCancel | blur | doubleClick =>
    rw [gesture_of_single l rfl]
    exact ((keepsLabels_settleWheel _).trans (keepsLabels_settlePointer _)).trans
      (keepsLabels_passGesture _ _)

theorem keepsLabels_retryGesture : KeepsLabels l l.retryGesture := by
  rcases retryGesture_cases l with ⟨-, heq⟩ | ⟨scale, -, ⟨-, heq⟩ | ⟨effect, -, heq⟩⟩ <;> rw [heq]
  · exact .refl l
  · exact .of_eq rfl
  · have hretried : KeepsLabels l { l with gestureRetryDue := false, scale } := .of_eq rfl
    exact hretried.trans (keepsLabels_carryOut _ _)

/-- A frame up to the labels. -/
def untilLabels (l : Layer MemorySurface) : Layer MemorySurface :=
  l.retryGesture.settleWheel.settlePointer

theorem keepsLabels_untilLabels : KeepsLabels l l.untilLabels :=
  ((keepsLabels_retryGesture _).trans (keepsLabels_settleWheel _)).trans
    (keepsLabels_settlePointer _)

/-! ## Deliveries and the pane -/

theorem keepsLabels_previewBar (bar : Bar) : KeepsLabels l (l.previewBar bar) := by
  unfold previewBar
  split <;> exact .of_eq rfl

theorem keepsLabels_priceTick (price : Float) : KeepsLabels l (l.priceTick price) := by
  unfold priceTick
  split <;> exact .of_eq rfl

theorem keepsLabels_report (issues : List Issue) : KeepsLabels l (l.report issues) :=
  .of_eq rfl

theorem keepsLabels_setLevels (levels : List Level) (timeframe : Option Timeframe)
    (tickSize : Float) : KeepsLabels l (l.setLevels levels timeframe tickSize) :=
  keepsLabels_keepingTimes l ((keepsLabels_report l _).trans (keepsLabels_reconcile _ _ _))

theorem keepsLabels_setSessions (sessions : List Session) :
    KeepsLabels l (l.setSessions sessions) :=
  keepsLabels_keepingTimes l ((keepsLabels_report l _).trans (keepsLabels_reconcile _ _ _))

theorem keepsLabels_resize : KeepsLabels l l.resize.2 := by
  unfold resize
  split
  · rename_i width height _
    have hsized : KeepsLabels l (l.onSurface (Surface.applySize width height)) := .of_eq rfl
    exact hsized.trans (keepsLabels_scheduleLabels _)
  · exact .refl l

theorem keepsLabels_resetView : KeepsLabels l l.resetView := by
  have hreleased : KeepsLabels l
      { l with
        surface := Surface.fitTimes (Surface.invalidatePrices (Surface.enablePan true l.surface))
        scale := l.scale.dropDrag.2.release
        pointer := l.pointer.cancel } := .of_eq rfl
  exact hreleased.trans (keepsLabels_scheduleLabels _)

end ChartLayer.Layer

namespace ChartLayer

/-- Whether a command may change which labels are wanted or placed. -/
def Command.relabels : Command → Bool
  | .setBars _ | .updateBar _ | .setZones _ | .mergeZone _ | .setPools _ | .setView _
  | .setLimit _ | .frame | .dispose => true
  | _ => false

/-- **Any other command.** It leaves the labels alone. -/
theorem Layer.keepsLabels_performLive (l : Layer MemorySurface) {c : Command}
    (hc : c.relabels = false) : KeepsLabels l (l.performLive c).2 := by
  cases c with
  | previewBar bar => exact keepsLabels_previewBar l bar
  | clearPreview => exact .of_eq rfl
  | priceTick price => exact keepsLabels_priceTick l price
  | setLevels levels timeframe tickSize => exact keepsLabels_setLevels l levels timeframe tickSize
  | setSessions sessions => exact keepsLabels_setSessions l sessions
  | gesture g => exact keepsLabels_gesture l g
  | viewportChanged => exact keepsLabels_scheduleLabels l
  | resize => exact keepsLabels_resize l
  | resetView => exact keepsLabels_resetView l
  | autoscale base => exact .of_eq rfl
  | report issues => exact keepsLabels_report l issues
  | setBars _ | updateBar _ | setZones _ | mergeZone _ | setPools _ | setView _ | setLimit _
  | frame | dispose => cases hc

end ChartLayer
