import ChartLayer.Number.Quantity
import ChartLayer.Time.Timeframe

/-!
# Pools, levels and sessions

The other marks on the chart besides zones: pools of liquidity as bands of prices, levels as single
prices, sessions as stretches of time.
-/

namespace ChartLayer

/-- mirrors `PoolStatus` -/
inductive PoolStatus where
  | active
  | swept
  deriving DecidableEq, Repr

/-- mirrors `PoolSide` -/
inductive PoolSide where
  | buySide
  | sellSide
  deriving DecidableEq, Repr

/-- A band of resting orders.
mirrors `PoolBand` -/
structure Pool where
  id : String
  timeframe : Timeframe
  top : Float
  bottom : Float
  status : PoolStatus
  kind : String
  side : PoolSide
  deriving DecidableEq, Repr

/-- The edges in order. -/
def Pool.highEdge (p : Pool) : Float := Quantity.larger p.top p.bottom

def Pool.lowEdge (p : Pool) : Float := Quantity.smaller p.top p.bottom

/-- mirrors `LevelKind` -/
inductive LevelKind where
  | premium
  | discount
  | equilibrium
  | other
  deriving DecidableEq, Repr

def LevelKind.name : LevelKind → String
  | premium => "premium"
  | discount => "discount"
  | equilibrium => "equilibrium"
  | other => "other"

/-- A single price.
mirrors `Level` -/
structure Level where
  id : String
  price : Float
  kind : LevelKind
  timeframe : Option Timeframe := none
  deriving DecidableEq, Repr

/-- The nearest multiple of a tick size, if there is a tick size.
mirrors `snap_to_tick` -/
def onTick (price tickSize : Float) : Float :=
  if 0.0 < tickSize ∧ tickSize.isFinite = true then roundAway (price / tickSize) * tickSize
  else price

/-- A stretch of time.
mirrors `SessionWindow` -/
structure Session where
  start : Time
  stop : Time
  tag : String
  deriving DecidableEq, Repr

/-- The part of the time axis that is shown.
mirrors `TimeRange` -/
structure TimeSpan where
  start : Time
  stop : Time
  deriving DecidableEq, Repr

end ChartLayer
