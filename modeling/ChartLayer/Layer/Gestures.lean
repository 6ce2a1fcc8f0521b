import ChartLayer.Layer.Basic

/-!
# Gestures on the layer

Moves of the pointer and turns of the wheel come in bursts and wait for the next frame, where one
gesture stands for the burst. Every other gesture is applied at once, after what waits.
-/

namespace ChartLayer.Layer

variable {σ : Type} [Surface σ]

/-- Does on the surface what a gesture calls for.
mirrors `OverlayEngine::apply_effect` -/
def carryOut (effect : GestureEffect) (l : Layer σ) : Layer σ :=
  let l :=
    if effect.deferred then { l with gestureRetryDue := true }.onSurface Surface.askFrame
    else l
  let l :=
    match effect.surfacePan with
    | some enabled => l.onSurface (Surface.enablePan enabled)
    | none => l
  let l :=
    if effect.rangeChanged then (l.onSurface Surface.invalidatePrices).scheduleLabels else l
  if effect.resyncTimeAxis then l.onSurface Surface.syncTimeAxis else l

/-- Hands a gesture to the price scale.
mirrors `OverlayEngine::apply_gesture` -/
def passGesture (gesture : Gesture Float) (l : Layer σ) : Layer σ :=
  let (effect, scale) := l.scale.handle gesture (Surface.priceMap l.surface)
  { l with scale }.carryOut effect

/-- Applies the turn of the wheel that waits.
mirrors `OverlayEngine::flush_wheel` -/
def settleWheel (l : Layer σ) : Layer σ :=
  match l.wheel.take with
  | (some turn, wheel) => { l with wheel }.passGesture turn.toGesture
  | (none, wheel) => { l with wheel }

/-- Applies the move of the pointer that waits.
mirrors `OverlayEngine::flush_pointer` -/
def settlePointer (l : Layer σ) : Layer σ :=
  match l.pointer.take with
  | (some spot, pointer) => { l with pointer }.passGesture spot.toGesture
  | (none, pointer) => { l with pointer }

/-- Keeps a move of the pointer; only the last one counts. -/
def pushPointer (spot : PointerSpot) (l : Layer σ) : Layer σ :=
  let (asks, pointer) := l.pointer.push spot
  { l with pointer }.askFrameIf asks

/-- Keeps a turn of the wheel, merged with the one that waits. One with another target is applied
first. -/
def pushWheel (turn : WheelTurn) (l : Layer σ) : Layer σ :=
  let l := if l.wheel.pending.any fun w => !w.sameTarget turn then l.settleWheel else l
  let (asks, wheel) := l.wheel.accumulate WheelTurn.merge turn
  { l with wheel }.askFrameIf asks

/-- Takes a gesture.
mirrors `OverlayEngine::handle_gesture` -/
def gesture (g : Gesture Float) (l : Layer σ) : Layer σ :=
  match g with
  | .pointerMove x y => l.pushPointer ⟨x, y⟩
  | .wheel y delta modifier region => l.pushWheel ⟨y, delta, modifier, region⟩
  | g => l.settleWheel.settlePointer.passGesture g

end ChartLayer.Layer
