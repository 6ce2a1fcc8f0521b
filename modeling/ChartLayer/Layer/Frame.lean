import ChartLayer.Layer.Gestures

/-!
# Frames

In a frame the layer retries the gesture that lacked geometry, applies the gestures that wait, and
places the labels if that is due. Labels whose dataset is gone are not placed. If geometry is
missing, labels are tried once more in the frame after.
-/

namespace ChartLayer.Layer

variable {σ : Type}

/-! ## Labels -/

/-- The priority of a zone's label: its role, then how fresh it is. -/
def zonePriority (z : Zone) : Int := z.role.rank * 10 + z.state.freshness

def zoneLabel (c : ZoneCluster) : LabelRequest Float where
  id := "zone:" ++ c.id
  anchor := c.mid
  priority := zonePriority c.representative
  mask := c.mask

def poolLabel (p : Pool) : LabelRequest Float where
  id := "pool:" ++ p.id
  anchor := p.highEdge
  priority := if p.status = .active then 1 else 0
  mask := p.timeframe.bit

/-- The labels that want a place.
mirrors `OverlayEngine::label_items` -/
def labelRequests (l : Layer σ) : List (LabelRequest Float) :=
  l.selection.clusters.map zoneLabel ++ l.pools.map poolLabel

variable [Surface σ]

/-- Places all labels; if geometry is missing, once more in the next frame.
mirrors `OverlayEngine::run_relayout` -/
def showLabels (l : Layer σ) : Layer σ :=
  match Labels.layout l.settings.labels l.labelRequests (Surface.priceMap l.surface) with
  | .ok labels =>
    { l with labelRetryUsed := false, labels }.onSurface (Surface.showLabels labels)
  | .error _ =>
    if l.labelRetryUsed then { l with labelRetryUsed := false }
    else { l with labelRetryUsed := true }.scheduleLabels

/-- Places the labels if that is due and their dataset is still there. -/
def settleLabels (l : Layer σ) : Layer σ :=
  match l.relayout.take with
  | (none, relayout) => { l with relayout }
  | (some generation, relayout) =>
    let l := { l with relayout }
    if generation = l.generation then l.showLabels
    else { l with staleRelayouts := l.staleRelayouts + 1 }

/-! ## One frame -/

/-- The one retry of a gesture that lacked geometry. -/
def retryGesture (l : Layer σ) : Layer σ :=
  if l.gestureRetryDue then
    let l := { l with gestureRetryDue := false }
    match l.scale.retry (Surface.priceMap l.surface) with
    | (some effect, scale) => { l with scale }.carryOut effect
    | (none, scale) => { l with scale }
  else l

/-- What the layer does in a frame.
mirrors `OverlayEngine::on_animation_frame` -/
def frame (l : Layer σ) : Layer σ := l.retryGesture.settleWheel.settlePointer.settleLabels

/-! ## The pane -/

/-- The size that the container has, if it has been measured. -/
def measuredContainer? (l : Layer σ) : Option (Float × Float) :=
  (Surface.containerSize l.surface).filter fun (width, height) => 0.0 < width && 0.0 < height

/-- Takes the size of the container. `false` if it has none.
mirrors `OverlayEngine::resize_to_container` -/
def resize (l : Layer σ) : Bool × Layer σ :=
  match l.measuredContainer? with
  | some (width, height) =>
    (true, (l.onSurface (Surface.applySize width height)).scheduleLabels)
  | none => (false, l)

/-- Gives the range of prices back to the series and fits the time axis.
mirrors `OverlayEngine::reset_view` -/
def resetView (l : Layer σ) : Layer σ :=
  let surface := Surface.enablePan true l.surface
  let surface := Surface.invalidatePrices surface
  let surface := Surface.fitTimes surface
  let scale := l.scale.dropDrag.2.release
  { l with surface, scale, pointer := l.pointer.cancel }.scheduleLabels

/-- What a series whose own range is `base` is told.
mirrors `OverlayEngine::autoscale_query` -/
def autoscale (base : Option (PriceRange Float)) (l : Layer σ) :
    Option (PriceRange Float) × Layer σ :=
  let (range, scale) := l.scale.autoscale base
  (range, { l with scale })

/-! ## The end -/

/-- Removes all that the layer has drawn and forgets all that it knows.
mirrors `OverlayEngine::dispose` -/
def dispose (l : Layer σ) : Layer σ :=
  let (_, registry, surface) := l.registry.clearAll l.surface
  let surface := Surface.showLabels {} surface
  let surface := Surface.setBadge none surface
  let surface := Surface.enablePan true surface
  { l with
    surface
    registry
    pointer := l.pointer.cancel
    wheel := l.wheel.cancel
    relayout := l.relayout.cancel
    labels := {}
    scale := l.scale.clear
    selector := l.selector.clear
    bars := l.bars.clear
    zones := []
    pools := []
    selection := {}
    disposed := true }

end ChartLayer.Layer
