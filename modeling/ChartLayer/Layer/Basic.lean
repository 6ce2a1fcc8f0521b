import ChartLayer.Bar.Series
import ChartLayer.Coalesced
import ChartLayer.Drawing.Registry
import ChartLayer.IssueLog
import ChartLayer.Settings.Basic

/-!
# The layer

A `Layer` sits on one charting surface and owns all that it draws there: it selects zones, packs
labels, keeps the drawings in line and turns gestures into ranges of prices. Work that can wait is
kept for the next frame, for which the layer asks its surface.

* `Layer.create?`: a layer on a fresh surface, or the setting that is out of bounds.
* `Layer.keepingTimes`: a change that must not move the time axis.
-/

namespace ChartLayer

/-- A turn of the wheel. -/
structure WheelTurn where
  y : Float
  delta : Float
  modifier : Bool
  region : PointerArea
  deriving DecidableEq, Repr

namespace WheelTurn

def toGesture (w : WheelTurn) : Gesture Float := .wheel w.y w.delta w.modifier w.region

/-- Whether two turns do the same sort of thing.
mirrors `same_wheel_target` -/
def sameTarget (a b : WheelTurn) : Bool := a.modifier == b.modifier && a.region == b.region

/-- One turn instead of two: where the later one is, as far as both together.
mirrors `merge_wheel` -/
def merge (earlier later : WheelTurn) : WheelTurn :=
  { later with delta := earlier.delta + later.delta }

end WheelTurn

/-- A position of the pointer. -/
structure PointerSpot where
  x : Float
  y : Float
  deriving DecidableEq, Repr

def PointerSpot.toGesture (p : PointerSpot) : Gesture Float := .pointerMove p.x p.y

/-- A layer and the surface that it draws on.
mirrors `OverlayEngine` -/
structure Layer (σ : Type) where
  surface : σ
  settings : Settings
  bars : BarSeries := {}
  scale : PriceScale Float
  selector : Selector
  registry : Registry := {}
  log : IssueLog
  /-- What the host's clock shows, in milliseconds. -/
  clock : Nat := 0
  /-- The zones as they were delivered. -/
  zones : List Zone := []
  pools : List Pool := []
  selection : Selection := {}
  labels : LabelLayout Float := {}
  view : Option Timeframe
  limit : LimitMode
  /-- Counts the datasets. -/
  generation : Nat := 0
  pointer : Coalesced PointerSpot := {}
  wheel : Coalesced WheelTurn := {}
  /-- Holds the generation for which labels are to be placed. -/
  relayout : Coalesced Nat := {}
  gestureRetryDue : Bool := false
  labelRetryUsed : Bool := false
  /-- How often labels were not placed because their dataset was gone. -/
  staleRelayouts : Nat := 0
  disposed : Bool := false

namespace Layer

variable {σ : Type}

/-- A layer on a surface, if the settings are in bounds.
mirrors `OverlayEngine::new` -/
def create? (surface : σ) (settings : Settings) : Except Fault (Layer σ) := do
  settings.validate
  return {
    surface
    settings
    scale := { rules := settings.gestures }
    selector := { rules := settings.zones }
    log := { interval := settings.reportInterval * 1000 }
    view := settings.view
    limit := settings.zones.limit }

def setClock (now : Nat) (l : Layer σ) : Layer σ := { l with clock := now }

/-- Reports issues to the log.
mirrors `OverlayEngine::report_malformed` -/
def report (issues : List Issue) (l : Layer σ) : Layer σ :=
  { l with log := l.log.reportAll (issues.map Issue.kind) l.clock }

/-- Changes the surface. -/
def onSurface (f : σ → σ) (l : Layer σ) : Layer σ := { l with surface := f l.surface }

variable [Surface σ]

/-- Asks the surface for a frame, if one is needed. -/
def askFrameIf (needed : Bool) (l : Layer σ) : Layer σ :=
  if needed then l.onSurface Surface.askFrame else l

/-- Has the labels placed in the next frame.
mirrors `OverlayEngine::schedule_relayout` -/
def scheduleLabels (l : Layer σ) : Layer σ :=
  let (asks, relayout) := l.relayout.push l.generation
  { l with relayout }.askFrameIf asks

/-- Brings one family of drawings in line with what is wanted. -/
def reconcile (family : DrawingFamily) (desired : DesiredDrawings) (l : Layer σ) :
    Changes × Layer σ :=
  let work := l.registry.reconcile family desired l.surface
  (work.report, { l with registry := work.registry, surface := work.surface })

/-- Shows the given times, unless they are shown already.
mirrors `OverlayEngine::restore_viewport` -/
def restoreTimes (times : Option TimeSpan) (l : Layer σ) : Layer σ :=
  match times with
  | none => l
  | some span =>
    if Surface.visibleTimes l.surface = some span then l
    else l.onSurface (Surface.showTimes span)

/-- Makes a change and then shows the times that were shown before it.
mirrors `OverlayEngine::snapshot_viewport` -/
def keepingTimes (change : Layer σ → Layer σ) (l : Layer σ) : Layer σ :=
  (change l).restoreTimes (Surface.visibleTimes l.surface)

end Layer

end ChartLayer
