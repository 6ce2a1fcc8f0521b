import ChartLayer.Number.Notation
import ChartLayer.Time.Timeframe

/-!
# What can be wrong with an item

An item of a payload that cannot be used is dropped with an `Issue`, which says what is wrong with
which item. Issues fall into eight kinds; reporting is throttled by kind.
-/

namespace ChartLayer

/-- The kinds of issue.
mirrors `IssueClass` -/
inductive IssueKind where
  | nonFiniteBounds
  | missingIdentity
  | duplicateIdentity
  | missingField
  | badTimestamp
  | unknownTimeframe
  | outOfOrderBar
  | invalidSession
  deriving DecidableEq, Repr

namespace IssueKind

/-- The name of a kind. -/
def name : IssueKind → String
  | nonFiniteBounds => "non_finite_bounds"
  | missingIdentity => "missing_identity"
  | duplicateIdentity => "duplicate_identity"
  | missingField => "missing_field"
  | badTimestamp => "bad_timestamp"
  | unknownTimeframe => "unknown_timeframe"
  | outOfOrderBar => "out_of_order_bar"
  | invalidSession => "invalid_session"

def all : List IssueKind :=
  [nonFiniteBounds, missingIdentity, duplicateIdentity, missingField, badTimestamp,
   unknownTimeframe, outOfOrderBar, invalidSession]

/-- The kind of a name. -/
def ofName? (s : String) : Option IssueKind := all.find? fun k => k.name == s

end IssueKind

/-- One item that was dropped, and why. -/
inductive Issue where
  | notRecord (what : String)
  | barWithoutTime
  | barWithoutPrices (time : Time)
  | barNotFinite (time : Time)
  | barRepeated (time : Time)
  | zoneWithoutTimeframe (label : String)
  | zoneTimeframe (label raw : String)
  | zoneWithoutOrigin (label : String)
  | zoneWithoutBounds (label : String)
  | zoneNotFinite (label : String) (min max : Float)
  | zoneRepeated (id : String)
  | poolWithoutId
  | poolWithoutTimeframe (id : String)
  | poolTimeframe (id raw : String)
  | poolNotFinite (id : String)
  | poolWithoutEdges (id : String)
  | poolRepeated (id : String)
  | levelWithoutPrice
  | levelNotFinite
  | levelPriceNotFinite (id : String)
  | levelRepeated (id : String)
  | sessionWithoutTimes
  | sessionEmpty (start stop : Time)
  | sessionBackwards (tag : String)
  | barUpdateNotFinite (time : Time)
  | barUpdateTooOld (time : Time)
  | liveBarRejected (time : Time)
  | tickNotFinite
  deriving DecidableEq, Repr

namespace Issue

def kind : Issue → IssueKind
  | notRecord _ | barWithoutPrices _ | zoneWithoutTimeframe _ | zoneWithoutBounds _
  | poolWithoutTimeframe _ | poolWithoutEdges _ | levelWithoutPrice => .missingField
  | barWithoutTime | zoneWithoutOrigin _ | sessionWithoutTimes => .badTimestamp
  | barNotFinite _ | zoneNotFinite .. | poolNotFinite _ | levelNotFinite | levelPriceNotFinite _
  | barUpdateNotFinite _ | tickNotFinite => .nonFiniteBounds
  | barRepeated _ | zoneRepeated _ | poolRepeated _ | levelRepeated _ => .duplicateIdentity
  | zoneTimeframe .. | poolTimeframe .. => .unknownTimeframe
  | poolWithoutId => .missingIdentity
  | sessionEmpty .. | sessionBackwards _ => .invalidSession
  | barUpdateTooOld _ | liveBarRejected _ => .outOfOrderBar

/-- The sentence for a reader. -/
def detail : Issue → String
  | notRecord what => what ++ " is not an object"
  | barWithoutTime => "bar without usable time"
  | barWithoutPrices t => "bar " ++ timeText t ++ " missing OHLC"
  | barNotFinite t => "bar " ++ timeText t ++ " has non-finite prices"
  | barRepeated t => "bar time " ++ timeText t ++ " repeated"
  | zoneWithoutTimeframe label => "zone " ++ label ++ " without timeframe"
  | zoneTimeframe label raw => "zone " ++ label ++ " has timeframe '" ++ raw ++ "'"
  | zoneWithoutOrigin label => "zone " ++ label ++ " without origin time"
  | zoneWithoutBounds label => "zone " ++ label ++ " without price bounds"
  | zoneNotFinite label min max =>
    "zone " ++ label ++ " bounds " ++ Notation.plain.write min ++ " / " ++ Notation.plain.write max
  | zoneRepeated id => "zone " ++ id ++ " repeated"
  | poolWithoutId => "pool without id"
  | poolWithoutTimeframe id => "pool " ++ id ++ " without timeframe"
  | poolTimeframe id raw => "pool " ++ id ++ ": Unknown timeframe: " ++ raw
  | poolNotFinite id => "pool " ++ id ++ " has non-finite edges"
  | poolWithoutEdges id => "pool " ++ id ++ " without edges"
  | poolRepeated id => "pool " ++ id ++ " repeated"
  | levelWithoutPrice => "level without price"
  | levelNotFinite => "level price is not finite"
  | levelPriceNotFinite id => "level " ++ id ++ " has no finite price"
  | levelRepeated id => "level " ++ id ++ " repeated"
  | sessionWithoutTimes => "session without start/end"
  | sessionEmpty start stop =>
    "session ends at " ++ timeText stop ++ " before it starts at " ++ timeText start
  | sessionBackwards tag => "session " ++ tag ++ " ends before it starts"
  | barUpdateNotFinite t | barUpdateTooOld t => "bar update at " ++ timeText t ++ " rejected"
  | liveBarRejected t => "live bar at " ++ timeText t ++ " rejected"
  | tickNotFinite => "price tick is not finite"

end Issue

end ChartLayer
