import ChartLayer.Bar.Basic
import ChartLayer.Issue

/-!
# The series of bars

`BarSeries` holds the bars of one dataset, ordered by time with no time twice, and next to them the
live preview of the bar that is forming.

* `BarSeries.setBars`: takes a whole history. The last bar given for a time counts.
* `BarSeries.updateLast`: replaces the last bar or adds a later one.
* `BarSeries.setLive` / `BarSeries.clearLive`: the preview, never older than the last bar.
* `BarSeries.reference?`: the price that everything is measured from.
* `BarSeries.granularity?`: the spacing of the bars.
-/

namespace ChartLayer

/-- What tells one dataset from another.
mirrors `DatasetSignature` -/
structure SeriesSignature where
  firstTime : Time
  lastTime : Time
  count : Nat
  deriving DecidableEq, Repr

/-- Whether a dataset is an earlier one with bars added at its end.
mirrors `DatasetSignature::is_extension_of` -/
def SeriesSignature.extends (next earlier : SeriesSignature) : Bool :=
  next.firstTime == earlier.firstTime && decide (earlier.lastTime ≤ next.lastTime)
    && decide (earlier.count ≤ next.count)

/-- What became of a bar update.
mirrors `BarUpdate` -/
inductive UpdateResult where
  | replaced
  | appended
  | rejected
  deriving DecidableEq, Repr

/-- The bars of one dataset.
mirrors `BarCache` -/
structure BarSeries where
  bars : List Bar := []
  live : Option Bar := none
  deriving DecidableEq, Repr

/-- What `BarSeries.setBars` found.
mirrors `SetBarsOutcome` -/
structure HistoryChange where
  signature : Option SeriesSignature
  datasetChanged : Bool
  issues : List Issue
  deriving DecidableEq, Repr

namespace BarSeries

/-- mirrors `BarCache::is_empty` -/
def isEmpty (s : BarSeries) : Bool := s.bars.isEmpty

/-- The signature of a list of bars in order. -/
def signatureOf? (bars : List Bar) : Option SeriesSignature :=
  match bars.head?, bars.getLast? with
  | some first, some last => some ⟨first.time, last.time, bars.length⟩
  | _, _ => none

/-- mirrors `BarCache::signature` -/
def signature? (s : BarSeries) : Option SeriesSignature := signatureOf? s.bars

/-! ## Whole histories -/

/-- One bar for each time of a list ordered by time: of bars with the same time the last. -/
def lastPerTime : List Bar → List Bar
  | [] => []
  | b :: rest =>
    match rest with
    | [] => [b]
    | c :: _ => if b.time = c.time then lastPerTime rest else b :: lastPerTime rest

/-- The times that a list ordered by time repeats, once for each repetition. -/
def repeatedTimes : List Bar → List Time
  | [] => []
  | b :: rest =>
    match rest with
    | [] => []
    | c :: _ => if b.time = c.time then c.time :: repeatedTimes rest else repeatedTimes rest

/-- The finite bars by time, bars of the same time in the order in which they came. -/
def sortedFinite (bars : List Bar) : List Bar :=
  (bars.filter Bar.isFinite).mergeSort fun a b => a.time ≤ b.time

/-- Drops a preview that is older than the last bar. -/
def dropStale (live : Option Bar) (bars : List Bar) : Option Bar :=
  match live, bars.getLast? with
  | some l, some last => if l.time < last.time then none else some l
  | live, _ => live

/-- Whether a dataset is another one than before, and not the same with more bars. -/
def isOtherDataset (before after : Option SeriesSignature) : Bool :=
  match before, after with
  | none, none => false
  | some earlier, some next => !next.extends earlier
  | _, _ => true

/-- Takes a whole history in any order.
mirrors `BarCache::set_bars` -/
def setBars (bars : List Bar) (s : BarSeries) : HistoryChange × BarSeries :=
  let sorted := sortedFinite bars
  let kept := lastPerTime sorted
  let outcome : HistoryChange :=
    { signature := signatureOf? kept
      datasetChanged := isOtherDataset s.signature? (signatureOf? kept)
      issues := (bars.filter fun b => !b.isFinite).map (fun b => .barNotFinite b.time)
        ++ (repeatedTimes sorted).map .barRepeated }
  (outcome, ⟨kept, dropStale s.live kept⟩)

/-! ## Single bars -/

/-- Drops a preview whose bar has come in complete. -/
def dropClosed (live : Option Bar) (bar : Bar) : Option Bar :=
  live.filter fun l => !(decide (l.time ≤ bar.time) && bar.complete)

/-- Replaces the last bar by one of its time, or adds a later one.
mirrors `BarCache::update_last_bar` -/
def updateLast (bar : Bar) (s : BarSeries) : UpdateResult × BarSeries :=
  if !bar.isFinite then (.rejected, s)
  else
    match s.bars.getLast? with
    | some last =>
      if last.time = bar.time then
        (.replaced, ⟨s.bars.dropLast ++ [bar], dropClosed s.live bar⟩)
      else if bar.time < last.time then (.rejected, s)
      else (.appended, ⟨s.bars ++ [bar], dropClosed s.live bar⟩)
    | none => (.appended, ⟨s.bars ++ [bar], dropClosed s.live bar⟩)

/-- Takes a preview, unless it is not finite or older than the last bar.
mirrors `BarCache::set_live_bar` -/
def setLive (bar : Bar) (s : BarSeries) : Bool × BarSeries :=
  let tooOld := s.bars.getLast?.any fun last => bar.time < last.time
  if !bar.isFinite || tooOld then (false, s) else (true, { s with live := some bar })

/-- mirrors `BarCache::clear_live_bar` -/
def clearLive (s : BarSeries) : BarSeries := { s with live := none }

/-- mirrors `BarCache::clear` -/
def clear (_ : BarSeries) : BarSeries := {}

/-! ## Questions -/

/-- The last complete bar.
mirrors `BarCache::last_closed_bar` -/
def lastClosed? (s : BarSeries) : Option Bar := s.bars.reverse.find? (·.complete)

/-- The close of the preview, else of the last complete bar, else the open of the last bar.
mirrors `BarCache::reference_price` -/
def reference? (s : BarSeries) : Option Float :=
  let finite (x : Float) : Bool := x.isFinite
  ((s.live.map (·.closePrice)).filter finite).or
    (((s.lastClosed?.map (·.closePrice)).filter finite).or
      ((s.bars.getLast?.map (·.openPrice)).filter finite))

/-- How many of the last bars tell the spacing. -/
def recentCount : Nat := 64

/-- The distances between neighbours, held at the end of the range of times. -/
def spacings : List Bar → List Time
  | [] => []
  | b :: rest =>
    match rest with
    | [] => []
    | c :: _ =>
      Int64.ofInt (min (c.time.toInt - b.time.toInt) Int64.maxValue.toInt) :: spacings rest

/-- The least distance between recent bars.
mirrors `BarCache::inferred_granularity` -/
def granularity? (s : BarSeries) : Option Timeframe :=
  let recent := s.bars.drop (s.bars.length - recentCount)
  ((spacings recent).filter fun d => 0 < d).min?.bind Timeframe.ofSecs?

end BarSeries

end ChartLayer
