import ChartLayer.Bar.Basic
import ChartLayer.Feed.Field
import ChartLayer.Number.Quantity

/-!
# Bars of a delivery

A bar needs a time and four finite prices. Its high and low are widened to hold the open and the
close, so that whatever is read satisfies `low ≤ open, close ≤ high`.
-/

namespace ChartLayer.Feed

open Quantity (larger smaller)

/-- One bar.
mirrors `normalize_bar` -/
def readBar (doc : Json) : Except Issue Bar := do
  let fs ← fieldsOf "bar" doc
  let time ← require .barWithoutTime
    (timeOf? fs ["time", "t", "timestamp", "open_time", "openTime"])
  let price := fun names => require (.barWithoutPrices time) (numberOf? fs names)
  let openPrice ← price ["open", "o"]
  let high ← price ["high", "h"]
  let low ← price ["low", "l"]
  let closePrice ← price ["close", "c"]
  if !(openPrice.isFinite && high.isFinite && low.isFinite && closePrice.isFinite) then
    throw (.barNotFinite time)
  return {
    time
    openPrice
    highPrice := larger (larger high openPrice) closePrice
    lowPrice := smaller (smaller low openPrice) closePrice
    closePrice
    volume := (finiteOf? fs ["volume", "v", "vol"]).getD 0.0
    complete :=
      (flagOf? fs ["complete", "closed", "is_closed", "isClosed", "final", "x"]).getD true }

/-- All bars of a delivery.
mirrors `normalize_bars` -/
def readBars (doc : Json) : Delivery Bar :=
  .ofResults ((entries ["bars", "candles", "data"] doc).map readBar)

end ChartLayer.Feed
