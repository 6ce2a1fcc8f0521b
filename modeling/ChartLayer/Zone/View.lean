import ChartLayer.Zone.Order

/-!
# What a view shows of the zones

A coarse view shows its own zones, the finer ones nested in them, and of the other finer ones the
nearest on each side of the price. A micro view shows points of interest only: those that hold the
price, and the nearest few on each side within a window. The views between show everything.
-/

namespace ChartLayer

/-- What refinement depends on.
mirrors `RefineContext` -/
structure ViewFocus where
  view : Timeframe
  reference : Float
  /-- How far a nested zone may stick out. -/
  tolerance : Float
  /-- How far off a zone of a micro view may be. -/
  window : Float
  limit : LimitMode
  deriving Repr

/-- Whether `fine` lies in `coarse`, but for the tolerance.
mirrors `contained_in` -/
def nestedIn (tolerance : Float) (fine coarse : Zone) : Bool :=
  coarse.min - tolerance ≤ fine.min && fine.max ≤ coarse.max + tolerance

/-- A coarse view.
mirrors `refine_high_timeframe` -/
def refineHighView (focus : ViewFocus) (zones : List Zone) : List Zone :=
  let coarse := zones.filter fun z => focus.view.secs ≤ z.timeframe.secs
  let fine := zones.filter fun z => !decide (focus.view.secs ≤ z.timeframe.secs)
  let isNested (z : Zone) : Bool := coarse.any (nestedIn focus.tolerance z)
  let loose := fine.filter fun z => !isNested z
  let above := sortByNearest focus.reference (loose.filter fun z => focus.reference ≤ z.mid)
  let below :=
    sortByNearest focus.reference (loose.filter fun z => !decide (focus.reference ≤ z.mid))
  let kept := ((fine.filter isNested) ++ above.take 1 ++ below.take 1).map (·.id)
  coarse ++ fine.filter fun z => kept.contains z.id

/-- A micro view.
mirrors `refine_micro` -/
def refineMicroView (focus : ViewFocus) (zones : List Zone) : List Zone :=
  let points := zones.filter fun z => z.role = .pointOfInterest
  let around := points.filter fun z => z.contains focus.reference
  let near := points.filter fun z =>
    !z.contains focus.reference && decide (z.distanceFrom focus.reference ≤ focus.window)
  let above := sortByNearest focus.reference (near.filter fun z => focus.reference < z.min)
  let below :=
    sortByNearest focus.reference (near.filter fun z => !decide (focus.reference < z.min))
  let first (side : List Zone) : List Zone :=
    match focus.limit.sideLimit with
    | some k => side.take k
    | none => side
  let kept := (around ++ first above ++ first below).map (·.id)
  points.filter fun z => kept.contains z.id

/-- What the view shows, from low to high.
mirrors `refine` -/
def refine (focus : ViewFocus) (zones : List Zone) : List Zone :=
  sortByPrice <|
    if focus.view.isHigh then refineHighView focus zones
    else if focus.view.isMicro then refineMicroView focus zones
    else zones

end ChartLayer
