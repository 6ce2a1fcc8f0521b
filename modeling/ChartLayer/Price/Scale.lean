import ChartLayer.Fault
import ChartLayer.Price.Map

/-!
# The price scale

The pane shows the range that its series ask for, until the reader takes it in hand: a wheel on the
price axis zooms, a wheel with a modifier key or a vertical drag on the plot pans, and a double
click on the axis gives the range back. `PriceScale` holds both ranges and the state of a drag.

* `PriceScale.autoscale`: what a series that asks for its range is told.
* `PriceScale.apply`: one gesture, or the geometry that it lacks.
* `PriceScale.handle`: one gesture, kept for a frame if geometry is missing.
* `PriceScale.retry`: the one retry of a gesture that was kept.
-/

namespace ChartLayer

/-- The part of the chart that the pointer is over.
mirrors `PointerRegion` -/
inductive PointerArea where
  | priceAxis
  | plot
  | outside
  deriving DecidableEq, Repr

/-- What a reader does with pointer and wheel.
mirrors `Gesture` -/
inductive Gesture (α : Type) where
  | wheel (y delta : α) (modifier : Bool) (region : PointerArea)
  | pointerDown (x y : α) (region : PointerArea)
  | pointerMove (x y : α)
  | pointerUp
  | pointerCancel
  | blur
  | doubleClick (region : PointerArea)
  deriving DecidableEq, Repr

/-- Whether gestures of this sort arrive in bursts.
mirrors `Gesture::is_high_frequency` -/
def Gesture.comesInBursts {α : Type} : Gesture α → Bool
  | .pointerMove .. | .wheel .. => true
  | _ => false

/-- The settings of the gestures.
mirrors `GestureConfig` -/
structure GestureRules (α : Type) where
  /-- The most that one wheel event counts. -/
  wheelCap : α
  /-- The exponent of the zoom for each unit of the wheel. -/
  zoomIntensity : α
  panFactor : α
  /-- How far the pointer moves before a drag begins. -/
  dragActivation : α
  deriving DecidableEq, Repr

/-- What the surface has to do after a gesture.
mirrors `ScaleEffect` -/
structure GestureEffect where
  rangeChanged : Bool := false
  /-- `false` while a vertical drag owns the pointer, `true` when it ends. -/
  surfacePan : Option Bool := none
  resyncTimeAxis : Bool := false
  deferred : Bool := false
  deriving DecidableEq, Repr

/-- A drag from pointer down to pointer up. A released drag has been left to the surface.
mirrors `DragState` -/
inductive Drag (α : Type) where
  | idle
  | armed (startX startY : α)
  | engaged (startY : α) (origin : PriceRange α)
  | released
  deriving DecidableEq, Repr

/-- A drag without its positions.
mirrors `DragPhase` -/
inductive DragPhase where
  | idle
  | armed
  | engaged
  | released
  deriving DecidableEq, Repr

def DragPhase.name : DragPhase → String
  | idle => "idle"
  | armed => "armed"
  | engaged => "engaged"
  | released => "released"

namespace Drag

variable {α : Type}

/-- mirrors `PriceScale::drag_phase` -/
def phase : Drag α → DragPhase
  | idle => .idle
  | armed .. => .armed
  | engaged .. => .engaged
  | released => .released

/-- mirrors `PriceScale::is_drag_engaged` -/
def isEngaged : Drag α → Bool
  | engaged .. => true
  | _ => false

end Drag

/-- The ranges of a pane, and the gesture in progress.
mirrors `PriceScale` -/
structure PriceScale (α : Type) where
  rules : GestureRules α
  manual : Option (PriceRange α) := none
  /-- The last range that the series asked for. -/
  auto : Option (PriceRange α) := none
  drag : Drag α := .idle
  /-- A gesture that waits for geometry. -/
  deferred : Option (Gesture α) := none
  deriving DecidableEq, Repr

namespace PriceScale

variable {α : Type}

/-- The range shown: the manual one, else that of the series.
mirrors `PriceScale::effective_range` -/
def effective (s : PriceScale α) : Option (PriceRange α) := s.manual.or s.auto

/-- mirrors `PriceScale::is_manual` -/
def isManual (s : PriceScale α) : Bool := s.manual.isSome

/-- mirrors `PriceScale::apply_manual_range` -/
def applyManual (r : PriceRange α) (s : PriceScale α) : PriceScale α := { s with manual := some r }

/-- mirrors `PriceScale::reset_to_auto` -/
def release (s : PriceScale α) : PriceScale α := { s with manual := none }

/-- Whether a series has to say its range: only without a manual one. -/
def consultsBase (s : PriceScale α) : Bool := s.manual.isNone

/-- What a series whose own range is `base` is told.
mirrors `PriceScale::autoscale_query` -/
def autoscale (base : Option (PriceRange α)) (s : PriceScale α) :
    Option (PriceRange α) × PriceScale α :=
  match s.manual with
  | some r => (some r, s)
  | none => (base, { s with auto := base.or s.auto })

/-- Drops a drag; the range stays. `true` if it was engaged.
mirrors `PriceScale::cancel_drag` -/
def dropDrag (s : PriceScale α) : Bool × PriceScale α :=
  (s.drag.isEngaged, { s with drag := .idle })

/-- mirrors `PriceScale::clear` -/
def clear (s : PriceScale α) : PriceScale α := { rules := s.rules }

/-- The end of a drag gives the pointer back.
mirrors `PriceScale::end_drag` -/
def finishDrag (s : PriceScale α) : GestureEffect × PriceScale α :=
  ({ surfacePan := if s.drag.isEngaged then some true else none }, { s with drag := .idle })

variable [Quantity α]

/-- The range that a gesture starts from.
mirrors `PriceScale::seed` -/
def seed (s : PriceScale α) : Except MissingGeometry (PriceRange α) :=
  match s.effective with
  | some r => .ok r
  | none => .error .seedRange

/-- A piece of geometry that must be there. -/
def need {β : Type} (what : MissingGeometry) : Option β → Except MissingGeometry β
  | some b => .ok b
  | none => .error what

/-- The exponent of the zoom for a wheel of some delta. -/
def zoomExponent (rules : GestureRules α) (delta : α) : α :=
  Quantity.smaller (Quantity.abs delta) rules.wheelCap * rules.zoomIntensity

/-- The factor of the zoom: towards the chart is in, away from it is out. -/
def zoomFactor (delta exponent : α) : α :=
  if delta < 0.0 then Quantity.exp (-exponent) else Quantity.exp exponent

/-- The range after a wheel on the price axis, none if the wheel did not turn.
mirrors `PriceScale::zoom` -/
def zoomed (y delta : α) (map : PriceMap α) (s : PriceScale α) :
    Except MissingGeometry (Option (PriceRange α)) :=
  let exponent := zoomExponent s.rules delta
  if !decide (0.0 < exponent) then .ok none
  else do
    let seed ← s.seed
    let anchor ← need .pointerPrice (map.priceAt y)
    let next ← need .zoomFactor (seed.zoomAbout? anchor (zoomFactor delta exponent))
    return some next

/-- The range after a wheel on the plot, none if the wheel did not turn.
mirrors `PriceScale::wheel_pan` -/
def wheelPanned (delta : α) (map : PriceMap α) (s : PriceScale α) :
    Except MissingGeometry (Option (PriceRange α)) :=
  if delta == 0.0 then .ok none
  else do
    let seed ← s.seed
    let height ← need .paneHeight map.paneHeight
    let offset ← need .emptyPane (panDistance? delta height seed.span s.rules.panFactor)
    let next ← need .panOffset (seed.movedBy? offset)
    return some next

/-- The range at the beginning of a drag, moved as far as the pointer since. Dragging down brings
higher prices in. -/
def dragged (rules : GestureRules α) (origin : PriceRange α) (dy height : α) :
    Except MissingGeometry (PriceRange α) := do
  let offset ← need .emptyPane (panDistance? (-dy) height origin.span rules.panFactor)
  need .dragOffset (origin.movedBy? offset)

/-- A wheel leaves the scale with a new manual range, or as it was. -/
def applyWheel (next : Except MissingGeometry (Option (PriceRange α))) (s : PriceScale α) :
    Except MissingGeometry GestureEffect × PriceScale α :=
  match next with
  | .ok (some r) => (.ok { rangeChanged := true }, s.applyManual r)
  | .ok none => (.ok {}, s)
  | .error what => (.error what, s)

/-- Follows the pointer in an engaged drag.
mirrors `PriceScale::drag_to` -/
def followDrag (origin : PriceRange α) (dy height : α) (s : PriceScale α) :
    Except MissingGeometry GestureEffect × PriceScale α :=
  match dragged s.rules origin dy height with
  | .ok next =>
    let changed := !(s.manual.any fun r => r.sameAs next)
    (.ok { rangeChanged := changed }, s.applyManual next)
  | .error what => (.error what, s)

/-- A movement of the pointer. An armed drag engages when the pointer goes far enough and more up or
down than sideways; one that goes sideways is left to the surface.
mirrors `PriceScale::drag_move` -/
def followPointer (x y : α) (map : PriceMap α) (s : PriceScale α) :
    Except MissingGeometry GestureEffect × PriceScale α :=
  match s.drag with
  | .idle | .released => (.ok {}, s)
  | .armed startX startY =>
    let dx := Quantity.abs (x - startX)
    let dy := Quantity.abs (y - startY)
    let activation := s.rules.dragActivation
    if activation < dy ∧ dx < dy then
      match map.paneHeight, s.effective with
      | none, _ => (.error .paneHeight, s)
      | some _, none => (.error .seedRange, s)
      | some height, some origin =>
        let (result, s) :=
          followDrag origin (y - startY) height { s with drag := .engaged startY origin }
        (result.map fun effect => { effect with surfacePan := some false }, s)
    else if activation < dx ∧ dy ≤ dx then (.ok {}, { s with drag := .released })
    else (.ok {}, s)
  | .engaged startY origin =>
    match map.paneHeight with
    | none => (.error .paneHeight, s)
    | some height => followDrag origin (y - startY) height s

/-- One gesture: its effect, or the geometry that it lacks, and the scale after it.
mirrors `PriceScale::apply` -/
def apply (gesture : Gesture α) (map : PriceMap α) (s : PriceScale α) :
    Except MissingGeometry GestureEffect × PriceScale α :=
  match gesture with
  | .wheel y delta _ .priceAxis => s.applyWheel (s.zoomed y delta map)
  | .wheel _ delta true .plot => s.applyWheel (s.wheelPanned delta map)
  | .wheel .. => (.ok {}, s)
  | .pointerDown x y .plot => (.ok {}, { s with drag := .armed x y })
  | .pointerDown .. => (.ok {}, { s with drag := .released })
  | .pointerMove x y => s.followPointer x y map
  | .pointerUp | .pointerCancel | .blur =>
    let (effect, s) := s.finishDrag
    (.ok effect, s)
  | .doubleClick .priceAxis =>
    (.ok { rangeChanged := true, resyncTimeAxis := true }, s.release)
  | .doubleClick _ => (.ok {}, s)

/-- One gesture; if geometry is missing it waits for the next frame.
mirrors `PriceScale::handle_gesture` -/
def handle (gesture : Gesture α) (map : PriceMap α) (s : PriceScale α) :
    GestureEffect × PriceScale α :=
  match s.apply gesture map with
  | (.ok effect, s) => (effect, s)
  | (.error _, s) => ({ deferred := true }, { s with deferred := some gesture })

/-- The one retry of the gesture that waits. If geometry is still missing it is given up.
mirrors `PriceScale::retry_deferred` -/
def retry (map : PriceMap α) (s : PriceScale α) : Option GestureEffect × PriceScale α :=
  match s.deferred with
  | none => (none, s)
  | some gesture =>
    match { s with deferred := none }.apply gesture map with
    | (.ok effect, s) => (some effect, s)
    | (.error _, s) => (none, s)

end PriceScale

end ChartLayer
