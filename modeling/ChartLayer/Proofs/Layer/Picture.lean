import ChartLayer.Layer.Command
import ChartLayer.Surface.Memory

/-!
# What does not touch the picture

The picture of a layer is what decides which drawings its surface has to hold, and the drawings that
it holds. Gestures, frames, labels, the time axis, the price badge and the log all leave it alone:
for each operation that never reconciles there is one lemma here, by which `simp` drops it.
-/

namespace ChartLayer.Layer

/-- What is drawn, and what it is drawn from. -/
structure Picture where
  registry : Registry
  drawings : List PlacedDrawing
  nextHandle : Nat
  selection : Selection
  pools : List Pool

def picture (l : Layer MemorySurface) : Picture :=
  ⟨l.registry, l.surface.drawings, l.surface.nextHandle, l.selection, l.pools⟩

variable (l : Layer MemorySurface)

/-! ## Frames asked for, times restored -/

@[simp] theorem picture_report (issues : List Issue) : (l.report issues).picture = l.picture := rfl

@[simp] theorem picture_askFrameIf (needed : Bool) : (l.askFrameIf needed).picture = l.picture := by
  unfold askFrameIf
  split <;> rfl

@[simp] theorem picture_scheduleLabels : l.scheduleLabels.picture = l.picture :=
  picture_askFrameIf _ _

@[simp] theorem picture_restoreTimes (times : Option TimeSpan) :
    (l.restoreTimes times).picture = l.picture := by
  unfold restoreTimes
  split
  · rfl
  · split <;> rfl

@[simp] theorem picture_keepingTimes (change : Layer MemorySurface → Layer MemorySurface) :
    (keepingTimes change l).picture = (change l).picture :=
  picture_restoreTimes _ _

/-! ## Bars -/

@[simp] theorem picture_previewBar (bar : Bar) : (l.previewBar bar).picture = l.picture := by
  unfold previewBar
  split <;> rfl

@[simp] theorem picture_clearPreview : l.clearPreview.picture = l.picture := rfl

@[simp] theorem picture_priceTick (price : Float) : (l.priceTick price).picture = l.picture := by
  unfold priceTick
  split <;> rfl

@[simp] theorem picture_showBars (bars : List Bar) :
    (l.onSurface (Surface.showBars bars)).picture = l.picture := rfl

@[simp] theorem picture_showBar (bar : Bar) :
    (l.onSurface (Surface.showBar bar)).picture = l.picture := rfl

@[simp] theorem picture_fitTimes : (l.onSurface Surface.fitTimes).picture = l.picture := rfl

/-! ## Gestures -/

@[simp] theorem picture_carryOut (effect : GestureEffect) :
    (l.carryOut effect).picture = l.picture := by
  have hrange (l : Layer MemorySurface) (changed : Bool) :
      (if changed then (l.onSurface Surface.invalidatePrices).scheduleLabels else l).picture =
        l.picture := by
    cases changed
    · rfl
    · exact picture_scheduleLabels _
  have hsync (l : Layer MemorySurface) (resync : Bool) :
      (if resync then l.onSurface Surface.syncTimeAxis else l).picture = l.picture := by
    cases resync <;> rfl
  unfold carryOut
  rw [hsync, hrange]
  cases effect.surfacePan with
  | none => dsimp only; split <;> rfl
  | some enabled => dsimp only; split <;> rfl

@[simp] theorem picture_passGesture (g : Gesture Float) : (l.passGesture g).picture = l.picture :=
  picture_carryOut _ _

@[simp] theorem picture_settleWheel : l.settleWheel.picture = l.picture := by
  unfold settleWheel
  split
  · exact picture_passGesture _ _
  · rfl

@[simp] theorem picture_settlePointer : l.settlePointer.picture = l.picture := by
  unfold settlePointer
  split
  · exact picture_passGesture _ _
  · rfl

@[simp] theorem picture_pushPointer (spot : PointerSpot) :
    (l.pushPointer spot).picture = l.picture :=
  picture_askFrameIf _ _

@[simp] theorem picture_pushWheel (turn : WheelTurn) : (l.pushWheel turn).picture = l.picture := by
  have hflushed (mismatch : Bool) :
      (if mismatch then l.settleWheel else l).picture = l.picture := by
    cases mismatch
    · rfl
    · exact picture_settleWheel l
  unfold pushWheel
  exact (picture_askFrameIf _ _).trans (hflushed _)

@[simp] theorem picture_gesture (g : Gesture Float) : (l.gesture g).picture = l.picture := by
  cases g <;> simp [gesture]

/-! ## Frames and the pane -/

@[simp] theorem picture_showLabels : l.showLabels.picture = l.picture := by
  unfold showLabels
  split
  · rfl
  · split
    · rfl
    · exact picture_scheduleLabels _

@[simp] theorem picture_settleLabels : l.settleLabels.picture = l.picture := by
  unfold settleLabels
  split
  · rfl
  · dsimp only
    split
    · exact picture_showLabels _
    · rfl

@[simp] theorem picture_retryGesture : l.retryGesture.picture = l.picture := by
  unfold retryGesture
  split
  · dsimp only
    split
    · exact picture_carryOut _ _
    · rfl
  · rfl

@[simp] theorem picture_frame : l.frame.picture = l.picture := by
  simp [frame]

@[simp] theorem picture_resize : l.resize.2.picture = l.picture := by
  unfold resize
  split
  · exact picture_scheduleLabels _
  · rfl

@[simp] theorem picture_resetView : l.resetView.picture = l.picture :=
  picture_scheduleLabels _

@[simp] theorem picture_autoscale (base : Option (PriceRange Float)) :
    (l.autoscale base).2.picture = l.picture := rfl

end ChartLayer.Layer
