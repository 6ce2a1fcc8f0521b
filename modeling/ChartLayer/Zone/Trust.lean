import ChartLayer.Bar.Series
import ChartLayer.Zone.Basic

/-!
# Truthful zones

A zone can be trusted only when the bucket from which it arose is over. `closedThrough?` is how far
the history is closed, and `keepTruthful` keeps the zones whose bucket ended by then.
-/

namespace ChartLayer

/-- The end of the last complete bar, held at the end of the range of times. Without a known spacing
the bar itself counts as still open.
mirrors `closed_until` -/
def closedThrough? (bars : BarSeries) (granularity : Option Timeframe) : Option Time :=
  bars.lastClosed?.map fun last =>
    match granularity with
    | some tf => Int64.ofInt (min (last.time.toInt + tf.secs.toInt) Int64.maxValue.toInt)
    | none => last.time

/-- The end of the bucket that begins at the origin, if it is a time at all. -/
def Zone.bucketEnd? (z : Zone) : Option Time :=
  let stop := z.originTime.toInt + z.timeframe.secs.toInt
  if stop ≤ Int64.maxValue.toInt then some (Int64.ofInt stop) else none

/-- The origin begins a bucket, and that bucket is over.
mirrors `is_truthful` -/
def Zone.isTruthful (z : Zone) (closedThrough : Time) : Bool :=
  z.timeframe.isAligned z.originTime && z.bucketEnd?.any fun stop => stop ≤ closedThrough

/-- The truthful zones, and how many others there were. With nothing closed no zone is.
mirrors `gate` -/
def keepTruthful (zones : List Zone) (closedThrough : Option Time) : List Zone × Nat :=
  let kept := zones.filter fun z => closedThrough.any z.isTruthful
  (kept, zones.length - kept.length)

end ChartLayer
