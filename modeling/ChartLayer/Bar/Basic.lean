import ChartLayer.Time.Timeframe

/-!
# Bars

A bar is the trading of one bucket of time: the first, highest, lowest and last price. A bar is
complete when its bucket is over.
-/

namespace ChartLayer

/-- The trading of one bucket.
mirrors `Bar` -/
structure Bar where
  time : Time
  openPrice : Float
  highPrice : Float
  lowPrice : Float
  closePrice : Float
  volume : Float := 0.0
  complete : Bool := true
  deriving DecidableEq, Repr

/-- Whether all four prices are finite; the volume does not matter.
mirrors `Bar::is_finite` -/
def Bar.isFinite (b : Bar) : Bool :=
  b.openPrice.isFinite && b.highPrice.isFinite && b.lowPrice.isFinite && b.closePrice.isFinite

end ChartLayer
