import ChartLayer.Bar.Basic
import ChartLayer.Number.Quantity

/-!
# Volatility

How far prices move from bar to bar. The true range of a bar is the widest of its own range and its
reach from the close before it; the mean of the last few is the measure by which "near" is judged.
-/

namespace ChartLayer

open Quantity (larger)

/-- The true range of a bar after the bar before it. -/
def trueRange (before : Option Bar) (b : Bar) : Float :=
  let own := b.highPrice - b.lowPrice
  match before with
  | some p =>
    if p.closePrice.isFinite then
      larger (larger own (b.highPrice - p.closePrice).abs) (b.lowPrice - p.closePrice).abs
    else own
  | none => own

/-- The true range of each bar, none where a price is not finite. -/
def trueRanges (before : Option Bar) : List Bar → List (Option Float)
  | [] => []
  | b :: rest =>
    (if b.isFinite then some (trueRange before b) else none) :: trueRanges (some b) rest

/-- The mean true range of the last `period` bars.
mirrors `average_true_range` -/
def meanTrueRange? (bars : List Bar) (period : Nat) : Option Float :=
  let ranges := ((trueRanges none bars).drop (bars.length - period)).filterMap id
  if ranges.isEmpty then none
  else some (ranges.foldl (· + ·) 0.0 / Float.ofNat ranges.length)

/-- The distance that counts as near: a multiple of the mean true range, and at least a part of the
reference price.
mirrors `volatility_window` -/
def nearWindow (bars : List Bar) (period : Nat) (multiple reference leastRatio : Float) :
    Float :=
  let least := reference.abs * leastRatio
  match meanTrueRange? bars period with
  | some atr => if atr.isFinite then larger (atr * multiple) least else least
  | none => least

end ChartLayer
