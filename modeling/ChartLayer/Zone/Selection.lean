import ChartLayer.Bar.Volatility
import ChartLayer.Zone.Frozen
import ChartLayer.Zone.Sweep
import ChartLayer.Zone.Trust
import ChartLayer.Zone.View

/-!
# The selection

From all zones delivered to the bands shown: zones without finite bounds are dropped, of each
identity the best candidate is taken, the truthful ones are frozen, refined to the view and
clustered, and the clusters are frozen in turn. The `Selector` keeps the frozen geometry from one
selection to the next.
-/

namespace ChartLayer

/-- The settings of a selection.
mirrors `ZoneConfig` -/
structure ZoneRules where
  /-- The overlap at which zones merge, as a part of the narrower one. -/
  overlapRatio : Float := 0.6
  /-- The gap up to which zones merge, as a part of the reference price. -/
  gapRatio : Float := 0.0001
  /-- How far a nested zone may stick out, as a part of the reference price. -/
  toleranceRatio : Float := 0.0005
  atrPeriod : Nat := 14
  /-- The window of a micro view in mean true ranges. -/
  windowMultiple : Float := 6.0
  /-- The least window of a micro view, as a part of the reference price. -/
  windowLeastRatio : Float := 0.0005
  limit : LimitMode := .near2
  /-- The decimals that tell zones without id apart. -/
  keyPrecision : Nat := 6
  deriving DecidableEq, Repr

/-- How many zones went which way.
mirrors `SelectionStats` -/
structure SelectionCounts where
  input : Nat := 0
  nonFinite : Nat := 0
  duplicates : Nat := 0
  untrusted : Nat := 0
  refinedOut : Nat := 0
  clusters : Nat := 0
  deriving DecidableEq, Repr

/-- What is shown.
mirrors `SelectionOutput` -/
structure Selection where
  /-- The bands, from low to high. -/
  clusters : List ZoneCluster := []
  /-- The zones in them, from low to high. -/
  zones : List Zone := []
  reference : Option Float := none
  stats : SelectionCounts := {}
  deriving DecidableEq, Repr

namespace Selection

/-- mirrors `SelectionOutput::is_empty` -/
def isEmpty (s : Selection) : Bool := s.clusters.isEmpty

/-- The zones that hold a price, the best first.
mirrors `SelectionOutput::hit_test` -/
def zonesAt (s : Selection) (price : Float) : List Zone :=
  if price.isFinite then
    (s.zones.filter fun z => z.contains price).mergeSort fun a b => (candidateOrder a b).isLE
  else []

end Selection

/-! ## Cleaning -/

/-- The zone with its bounds in order. -/
def Zone.ordered (z : Zone) : Zone :=
  if z.max < z.min then { z with min := z.max, max := z.min } else z

/-- The zones with finite bounds, in order.
mirrors `sanitize` -/
def finiteZones (zones : List Zone) : List Zone :=
  (zones.filter Zone.hasFiniteBounds).map Zone.ordered

/-- The better of two zones with one identity; of equals the first. -/
def better (first second : Zone) : Zone :=
  if (candidateOrder second first).then (priceOrder second first) = .lt then second else first

/-- The best candidate for each identity. -/
def bestById (zones : List Zone) : Std.ExtTreeMap String Zone :=
  zones.foldl (fun byId z =>
    match byId[z.id]? with
    | some first => byId.insert z.id (better first z)
    | none => byId.insert z.id z) ∅

/-- One zone for each identity, from low to high.
mirrors `dedupe` -/
def uniqueById (zones : List Zone) : List Zone := sortByPrice ((bestById zones).toList.map (·.2))

/-- The zones that repeat an identity, in the order in which they come. -/
def repetitions : List String → List Zone → List Zone
  | _, [] => []
  | seen, z :: rest =>
    if seen.contains z.id then z :: repetitions seen rest else repetitions (z.id :: seen) rest

/-! ## Selecting -/

/-- The settings, and the geometry kept from earlier selections.
mirrors `ZoneEngine` -/
structure Selector where
  rules : ZoneRules
  frozen : Frozen := {}

namespace Selector

/-- mirrors `ZoneEngine::clear` -/
def clear (s : Selector) : Selector := { s with frozen := {} }

/-- From low to high, then by the id of the representative. -/
def clusterOrder (a b : ZoneCluster) : Ordering :=
  (totalOrder a.min b.min).then ((totalOrder a.max b.max).then (compare a.id b.id))

/-- The zones that a view shows, from low to high; without a view nothing is left out. -/
def narrow (rules : ZoneRules) (bars : BarSeries) (reference : Float) (view : Option Timeframe)
    (limit : LimitMode) (zones : List Zone) : List Zone :=
  match view with
  | none => sortByPrice zones
  | some view =>
    refine
      { view
        reference
        tolerance := reference.abs * rules.toleranceRatio
        window := nearWindow bars.bars rules.atrPeriod rules.windowMultiple reference
          rules.windowLeastRatio
        limit }
      zones

/-- What to report about the zones delivered. -/
def issues (zones : List Zone) : List Issue :=
  (zones.filter fun z => !z.hasFiniteBounds).map (fun z => .zoneNotFinite z.id z.min z.max)
    ++ (repetitions [] (finiteZones zones)).map fun z => .zoneRepeated z.id

/-- The selection from the zones delivered. The view is the given one, else the spacing of the bars.
Without a reference price nothing is shown.
mirrors `ZoneEngine::select` -/
def select (zones : List Zone) (bars : BarSeries) (view : Option Timeframe) (limit : LimitMode)
    (s : Selector) : Selection × Selector :=
  let finite := finiteZones zones
  let unique := uniqueById finite
  let cleaned : SelectionCounts :=
    { input := zones.length
      nonFinite := zones.length - finite.length
      duplicates := finite.length - unique.length }
  let (_, frozen) := s.frozen.retain (unique.map (·.id))
  match bars.reference? with
  | none => ({ stats := cleaned }, { s with frozen })
  | some reference =>
    let view := view.or bars.granularity?
    let (accepted, untrusted) := keepTruthful unique (closedThrough? bars view)
    let (shown, frozen) := frozen.showZones accepted
    let refined := narrow s.rules bars reference view limit shown
    let joining : ClusterRules :=
      { overlapRatio := s.rules.overlapRatio
        gapTolerance := reference.abs * s.rules.gapRatio }
    let (clusters, frozen) := frozen.showClusters (clustersOf joining refined)
    let clusters := clusters.mergeSort fun a b => (clusterOrder a b).isLE
    ({ clusters
       zones := refined
       reference := some reference
       stats :=
        { cleaned with
          untrusted
          refinedOut := shown.length - refined.length
          clusters := clusters.length } },
     { s with frozen })

end Selector

end ChartLayer
