import ChartLayer.Zone.Order

/-!
# Clusters of zones

Zones that overlap or nearly touch are shown as one band. A sweep from low to high collects zones
into an open group: a zone joins when it overlaps the last member enough, or when its gap to the
group is small; otherwise it opens the next group.
-/

namespace ChartLayer

open Quantity (larger smaller)

/-- When zones are shown as one band.
mirrors `ClusterParams` -/
structure ClusterRules where
  /-- The overlap at which two zones join, as a part of the narrower one. -/
  overlapRatio : Float
  /-- The gap up to which a zone joins the group below it. -/
  gapTolerance : Float
  deriving Repr

/-- How much of the narrower of two bands both share. Bands without width share all or nothing.
mirrors `overlap_ratio` -/
def overlapRatio (aMin aMax bMin bMax : Float) : Float :=
  let shared := smaller aMax bMax - larger aMin bMin
  if shared < 0.0 then 0.0
  else
    let narrower := smaller (aMax - aMin) (bMax - bMin)
    if narrower ≤ 0.0 then 1.0 else smaller (shared / narrower) 1.0

/-- The band of a group whose highest price is `top`.
mirrors `finish` -/
def closeGroup? (group : List Zone) (top : Float) : Option ZoneCluster := do
  let representative ← best? group
  let startTime ← (group.map (·.originTime)).min?
  return {
    representative
    members := group
    startTime
    min := group.foldl (fun low z => smaller low z.min) positiveInfinity
    max := top }

/-- Whether a zone joins the group that ends with `last` and reaches up to `top`. -/
def joinsGroup (rules : ClusterRules) (last : Zone) (top : Float) (z : Zone) : Bool :=
  decide (rules.overlapRatio ≤ overlapRatio last.min last.max z.min z.max)
    || decide (z.min - top ≤ rules.gapTolerance)

/-- The bands of an open group and of the zones after it. -/
def sweep (rules : ClusterRules) (group : List Zone) (top : Float) :
    List Zone → List ZoneCluster
  | [] => (closeGroup? group top).toList
  | z :: rest =>
    if group.getLast?.all fun last => joinsGroup rules last top z then
      sweep rules (group ++ [z]) (larger top z.max) rest
    else
      (closeGroup? group top).toList ++ sweep rules [z] (larger negativeInfinity z.max) rest

/-- The bands of some zones in any order, from low to high.
mirrors `cluster_zones` -/
def clustersOf (rules : ClusterRules) (zones : List Zone) : List ZoneCluster :=
  sweep rules [] negativeInfinity (sortByPrice zones)

end ChartLayer
