import ChartLayer.Number.Quantity
import ChartLayer.Time.Timeframe

/-!
# Zones

A zone is a band of prices that an analysis marks on the chart, from the bucket in which it arose.
Its `id` is its identity over time: the same zone comes again with each delivery.
-/

namespace ChartLayer

/-- mirrors `ZoneDirection` -/
inductive ZoneDirection where
  | bullish
  | bearish
  | neutral
  deriving DecidableEq, Repr

/-- mirrors `ZoneKind` -/
inductive ZoneKind where
  | supply
  | demand
  | orderBlock
  | fairValueGap
  | breaker
  | liquidity
  | other (name : String)
  deriving DecidableEq, Repr

/-- The text of a kind.
mirrors `ZoneKind::as_str` -/
def ZoneKind.name : ZoneKind → String
  | supply => "supply"
  | demand => "demand"
  | orderBlock => "order_block"
  | fairValueGap => "fair_value_gap"
  | breaker => "breaker"
  | liquidity => "liquidity"
  | other name => name

/-- mirrors `ZoneRole` -/
inductive ZoneRole where
  | pointOfInterest
  | entry
  | target
  | context
  deriving DecidableEq, Repr

namespace ZoneRole

/-- More important roles rank higher.
mirrors `ZoneRole::rank` -/
def rank : ZoneRole → Nat
  | pointOfInterest => 3
  | entry => 2
  | target => 1
  | context => 0

/-- The short text of a role.
mirrors `ZoneRole::as_str` -/
def tag : ZoneRole → String
  | pointOfInterest => "poi"
  | entry => "entry"
  | target => "target"
  | context => "context"

end ZoneRole

/-- mirrors `ZoneState` -/
inductive ZoneState where
  | fresh
  | tested
  | mitigated
  | invalidated
  deriving DecidableEq, Repr

/-- Fresher states are higher.
mirrors `ZoneState::freshness` -/
def ZoneState.freshness : ZoneState → Nat
  | fresh => 3
  | tested => 2
  | mitigated => 1
  | invalidated => 0

/-- A band of prices.
mirrors `Zone` -/
structure Zone where
  id : String
  min : Float
  max : Float
  direction : ZoneDirection
  kind : ZoneKind
  role : ZoneRole
  state : ZoneState
  score : Float
  strength : Option Float := none
  confidence : Option Float := none
  timeframe : Timeframe
  originTime : Time
  invalidatedTime : Option Time := none
  why : List String := []
  deriving DecidableEq, Repr

namespace Zone

/-- mirrors `Zone::width` -/
def width (z : Zone) : Float := z.max - z.min

def mid (z : Zone) : Float := (z.min + z.max) / 2.0

/-- mirrors `Zone::contains_price` -/
def contains (z : Zone) (price : Float) : Bool := z.min ≤ price && price ≤ z.max

/-- How far a price lies outside the band.
mirrors `Zone::distance_to` -/
def distanceFrom (z : Zone) (price : Float) : Float :=
  if price < z.min then z.min - price
  else if z.max < price then price - z.max
  else 0.0

def hasFiniteBounds (z : Zone) : Bool := z.min.isFinite && z.max.isFinite

/-- What the ids of zones begin with that came without one. -/
def anonymousMark : String := "anon-"

/-- mirrors `ZoneId::is_anonymous` -/
def isAnonymous (z : Zone) : Bool := anonymousMark.toList.isPrefixOf z.id.toList

end Zone

/-- Zones near each other, shown as one band.
mirrors `ZoneCluster` -/
structure ZoneCluster where
  /-- The member that names the band. -/
  representative : Zone
  members : List Zone
  startTime : Time
  min : Float
  max : Float
  deriving DecidableEq, Repr

namespace ZoneCluster

def id (c : ZoneCluster) : String := c.representative.id

def mid (c : ZoneCluster) : Float := (c.min + c.max) / 2.0

/-- The timeframes of the members.
mirrors `ZoneCluster::timeframe_mask` -/
def mask (c : ZoneCluster) : Nat :=
  c.members.foldl (fun mask z => mask ||| z.timeframe.bit) 0

end ZoneCluster

/-! ## How many zones near the price are shown -/

/-- How many zones a micro view keeps on each side of the reference price.
mirrors `ZoneLimitMode` -/
inductive LimitMode where
  | near1
  | near2
  | all
  deriving DecidableEq, Repr

namespace LimitMode

/-- The number for each side; none is no limit.
mirrors `ZoneLimitMode::per_side` -/
def sideLimit : LimitMode → Option Nat
  | near1 => some 1
  | near2 => some 2
  | all => none

def name : LimitMode → String
  | near1 => "near1"
  | near2 => "near2"
  | all => "all"

/-- The mode that a text names, or the text as it was looked up.
mirrors `ZoneLimitMode::from_str` -/
def parse (s : String) : Except String LimitMode :=
  let word := lowercase (trimmed s)
  if word = "near1" then .ok near1
  else if word = "near2" then .ok near2
  else if word = "all" then .ok all
  else .error word

end LimitMode

end ChartLayer
