import ChartLayer.Surface.Basic

/-!
# A surface in memory

`MemorySurface` keeps what it is told and draws nothing. Prices map linearly to pixels, every
drawing is accepted, and handles are numbered from one.
-/

namespace ChartLayer

open Quantity (larger smaller)

/-- A drawing on the surface. -/
structure PlacedDrawing where
  handle : Handle
  key : DrawingKey
  drawing : Drawing
  deriving DecidableEq, Repr

/-- What a surface in memory has been told.
mirrors `HeadlessSurface` -/
structure MemorySurface where
  /-- Width and height of the pane. -/
  size : Option (Float × Float) := none
  container : Option (Float × Float) := none
  priceRange : Option (PriceRange Float) := none
  timeSpan : Option TimeSpan := none
  panEnabled : Bool := true
  framePending : Bool := false
  framesRequested : Nat := 0
  bars : List Bar := []
  badge : Option Float := none
  labels : LabelLayout Float := {}
  labelPasses : Nat := 0
  /-- In the order of their handles. -/
  drawings : List PlacedDrawing := []
  nextHandle : Nat := 1
  fits : Nat := 0
  timeSyncs : Nat := 0
  invalidations : Nat := 0
  deriving DecidableEq, Repr

namespace MemorySurface

/-- A measured surface.
mirrors `HeadlessSurface::new` -/
def ofSize (width height : Float) : MemorySurface :=
  { size := some (width, height), container := some (width, height) }

/-- A surface that has not been laid out yet.
mirrors `HeadlessSurface::unmeasured` -/
def unmeasured : MemorySurface := {}

/-! ## The host's side -/

/-- mirrors `HeadlessSurface::set_visible_price_range` -/
def setPriceRange (r : Option (PriceRange Float)) (s : MemorySurface) : MemorySurface :=
  { s with priceRange := r }

/-- mirrors `HeadlessSurface::set_container_size` -/
def setContainer (size : Option (Float × Float)) (s : MemorySurface) : MemorySurface :=
  { s with container := size }

/-- Takes the pending request for a frame.
mirrors `HeadlessSurface::take_frame_request` -/
def takeFrame (s : MemorySurface) : Bool × MemorySurface :=
  (s.framePending, { s with framePending := false })

/-- The room that `contentRange?` leaves above and below the bars, as a part of their span.
mirrors `AUTOSCALE_PADDING` -/
def fitPadding : Float := 0.05

/-- The range that the bars themselves ask for.
mirrors `HeadlessSurface::base_autoscale` -/
def contentRange? (s : MemorySurface) : Option (PriceRange Float) :=
  let low := s.bars.foldl (fun low b => smaller low b.lowPrice) positiveInfinity
  let high := s.bars.foldl (fun high b => larger high b.highPrice) negativeInfinity
  if !low.isFinite || !high.isFinite then none
  else
    let padding := (high - low) * fitPadding
    PriceRange.of? (low - padding) (high + padding)

/-! ## The layer's side -/

def priceMap (s : MemorySurface) : PriceMap Float :=
  .linear (s.size.map (·.2)) s.priceRange

/-- mirrors `HeadlessSurface::request_frame` -/
def askFrame (s : MemorySurface) : MemorySurface :=
  { s with framePending := true, framesRequested := s.framesRequested + 1 }

/-- mirrors `HeadlessSurface::fit_content` -/
def fitTimes (s : MemorySurface) : MemorySurface :=
  let fitted :=
    match s.bars.head?, s.bars.getLast? with
    | some first, some last => some ⟨first.time, last.time⟩
    | _, _ => s.timeSpan
  { s with fits := s.fits + 1, timeSpan := fitted }

/-- A bar with the time of the last one takes its place, any other goes behind.
mirrors `HeadlessSurface::render_bar` -/
def showBar (b : Bar) (s : MemorySurface) : MemorySurface :=
  let replaces := s.bars.getLast?.any fun last => last.time == b.time
  { s with bars := (if replaces then s.bars.dropLast else s.bars) ++ [b] }

/-- mirrors `HeadlessSurface::create_primitive` -/
def draw (key : DrawingKey) (drawing : Drawing) (s : MemorySurface) :
    Option Handle × MemorySurface :=
  let handle : Handle := ⟨s.nextHandle⟩
  (some handle,
   { s with drawings := s.drawings ++ [⟨handle, key, drawing⟩], nextHandle := s.nextHandle + 1 })

def isDrawn (handle : Handle) (s : MemorySurface) : Bool :=
  s.drawings.any fun p => p.handle = handle

/-- mirrors `HeadlessSurface::update_primitive` -/
def redraw (handle : Handle) (drawing : Drawing) (s : MemorySurface) :
    Bool × MemorySurface :=
  let change (p : PlacedDrawing) := if p.handle = handle then { p with drawing } else p
  (s.isDrawn handle, { s with drawings := s.drawings.map change })

/-- mirrors `HeadlessSurface::remove_primitive` -/
def erase (handle : Handle) (s : MemorySurface) : MemorySurface :=
  { s with drawings := s.drawings.filter fun p => p.handle ≠ handle }

/-- mirrors `HeadlessSurface::place_labels` -/
def showLabels (layout : LabelLayout Float) (s : MemorySurface) : MemorySurface :=
  { s with labels := layout, labelPasses := s.labelPasses + 1 }

instance : Surface MemorySurface where
  priceMap := priceMap
  askFrame := askFrame
  visibleTimes s := s.timeSpan
  showTimes span s := { s with timeSpan := some span }
  fitTimes := fitTimes
  syncTimeAxis s := { s with timeSyncs := s.timeSyncs + 1 }
  enablePan enabled s := { s with panEnabled := enabled }
  invalidatePrices s := { s with invalidations := s.invalidations + 1 }
  showBars bars s := { s with bars }
  showBar := showBar
  setBadge price s := { s with badge := price }
  draw := draw
  redraw := redraw
  erase := erase
  showLabels := showLabels
  containerSize s := s.container
  applySize width height s := { s with size := some (width, height) }

end MemorySurface

end ChartLayer
