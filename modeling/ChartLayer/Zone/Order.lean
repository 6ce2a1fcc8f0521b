import ChartLayer.Zone.Basic

/-!
# Orders of zones

Three total orders, each of which ends with the id, so that zones with different ids never tie.

* `priceOrder`: from low to high.
* `candidateOrder`: the best candidate first.
* `nearestOrder`: the nearest to a price first.
-/

namespace ChartLayer

/-- From low to high: by lower bound, upper bound, id.
mirrors `price_order` -/
def priceOrder (a b : Zone) : Ordering :=
  (totalOrder a.min b.min).then ((totalOrder a.max b.max).then (compare a.id b.id))

/-- The larger value first, a missing one last.
mirrors `desc_opt` -/
def largestFirst : Option Float → Option Float → Ordering
  | some x, some y => totalOrder y x
  | some _, none => .lt
  | none, some _ => .gt
  | none, none => .eq

/-- The place of a width among all widths. The one NaN stands for two. The difference of two equal
infinities is the NaN that subtraction makes, whose sign bit is set, and is below every other width.
The width of a band with an undefined bound is the NaN of that bound, whose sign bit is clear, and
is above. -/
def widthKey (z : Zone) : Int :=
  if z.width.isNaN && !z.min.isNaN && !z.max.isNaN then -0x10000000000000000 else orderKey z.width

/-- The best candidate first: by freshness, role, strength, confidence, score, the narrower band,
id.
mirrors `representative_order` -/
def candidateOrder (a b : Zone) : Ordering :=
  (compare b.state.freshness a.state.freshness).then <|
  (compare b.role.rank a.role.rank).then <|
  (largestFirst a.strength b.strength).then <|
  (largestFirst a.confidence b.confidence).then <|
  (totalOrder b.score a.score).then <|
  (compare (widthKey a) (widthKey b)).then <|
  compare a.id b.id

/-- The nearest to `reference` first: by distance, id.
mirrors `nearest_first` -/
def nearestOrder (reference : Float) (a b : Zone) : Ordering :=
  (totalOrder (a.distanceFrom reference) (b.distanceFrom reference)).then (compare a.id b.id)

/-- A list of zones from low to high. -/
def sortByPrice (zones : List Zone) : List Zone := zones.mergeSort fun a b => (priceOrder a b).isLE

/-- A list of zones, the nearest to `reference` first. -/
def sortByNearest (reference : Float) (zones : List Zone) : List Zone :=
  zones.mergeSort fun a b => (nearestOrder reference a b).isLE

/-- The first of the best candidates. -/
def best? : List Zone → Option Zone
  | [] => none
  | z :: rest =>
    some (rest.foldl (fun b c => if candidateOrder b c = .gt then c else b) z)

end ChartLayer
