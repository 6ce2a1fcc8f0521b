import ChartLayer.Feed.Field
import ChartLayer.Number.Notation
import ChartLayer.Text.Digest
import ChartLayer.Zone.Basic

/-!
# Zones of a delivery

A zone needs a timeframe, an origin and two finite bounds, in any order. What else is missing is
inferred: the kind from the list in which the zone stands, the direction from the kind, the state
from what is said about activity, touches and invalidation.

A zone without an id gets one made of the digest of `identityText`, the attributes that tell one
zone from another. So a zone keeps its identity from one delivery to the next.
-/

namespace ChartLayer.Feed

/-! ## Words -/

/-- The kind that a text names; a text that is no known word is a kind of its own.
mirrors `parse_kind` -/
def zoneKind (raw : String) : ZoneKind :=
  let word := joinedWord raw
  if ["supply", "supply_zone"].contains word then .supply
  else if ["demand", "demand_zone"].contains word then .demand
  else if ["ob", "order_block", "orderblock"].contains word then .orderBlock
  else if ["fvg", "fair_value_gap", "imbalance"].contains word then .fairValueGap
  else if ["breaker", "breaker_block"].contains word then .breaker
  else if ["liquidity", "pool"].contains word then .liquidity
  else .other word

/-- mirrors `parse_direction` -/
def zoneDirection (raw : String) : ZoneDirection :=
  let word := lowercase raw
  if ["bullish", "bull", "long", "buy", "up", "demand"].contains word then .bullish
  else if ["bearish", "bear", "short", "sell", "down", "supply"].contains word then .bearish
  else .neutral

/-- mirrors `parse_role` -/
def zoneRole (raw : String) : ZoneRole :=
  let word := joinedWord raw
  if ["poi", "point_of_interest"].contains word then .pointOfInterest
  else if word = "entry" then .entry
  else if ["target", "tp"].contains word then .target
  else .context

/-- mirrors `parse_state` -/
def zoneState? (raw : String) : Option ZoneState :=
  let word := lowercase raw
  if ["fresh", "active", "untested", "new"].contains word then some .fresh
  else if ["tested", "touched", "retested"].contains word then some .tested
  else if word = "mitigated" then some .mitigated
  else if ["invalidated", "invalid", "broken", "inactive"].contains word then some .invalidated
  else none

/-- The direction that a kind suggests. -/
def usualDirection : ZoneKind → ZoneDirection
  | .supply => .bearish
  | .demand => .bullish
  | _ => .neutral

/-! ## Identity -/

/-- The attributes that tell one zone from another, as a text. The bounds are rounded, so that two
computations of one zone agree. -/
def identityText (timeframe : Timeframe) (kind : ZoneKind) (role : ZoneRole) (origin : Time)
    (min max : Float) (places : Nat) : String :=
  timeframe.label ++ "|" ++ kind.name ++ "|" ++ role.tag ++ "|" ++ timeText origin ++ "|"
    ++ writeFixed places min ++ "|" ++ writeFixed places max

/-- The number of hexadecimal digits in an id made from a digest. -/
def digestDigits : Nat := 16

/-- The id of a zone that has none of its own.
mirrors `anonymous_zone_id` -/
def anonymousId (timeframe : Timeframe) (kind : ZoneKind) (role : ZoneRole) (origin : Time)
    (min max : Float) (places : Nat) : String :=
  let text := identityText timeframe kind role origin min max places
  let digest := Digest.hex (Digest.sha256 text.toUTF8.toList)
  Zone.anonymousMark ++ String.ofList (digest.toList.take digestDigits)

/-! ## One zone -/

/-- The state of a zone that does not name it. -/
def inferredState (fs : Fields) (invalidated : Option Time) : ZoneState :=
  let inactive := flagOf? fs ["is_active", "isActive"] == some false
  let touches := (numberOf? fs ["touch_count", "touchCount"]).getD 0.0
  if inactive || invalidated.isSome then .invalidated
  else if 0.0 < touches then .tested
  else .fresh

/-- The role of a zone, which a flag may also name. -/
def roleOf (fs : Fields) : ZoneRole :=
  match textOf? fs ["role"] with
  | some raw => zoneRole raw
  | none =>
    if flagOf? fs ["poi", "is_poi", "isPoi"] == some true then .pointOfInterest else .context

/-- One zone. The hint is its kind if it names none; `places` is the precision of `identityText`.
mirrors `normalize_zone` -/
def readZone (hint : Option ZoneKind) (places : Nat) (doc : Json) : Except Issue Zone := do
  let fs ← fieldsOf "zone" doc
  let ownId := textOf? fs ["id", "zone_id", "zoneId", "uuid"]
  let label := ownId.getD "<anonymous>"
  let raw ← require (.zoneWithoutTimeframe label) (textOf? fs ["timeframe", "tf", "interval"])
  let timeframe ← require (.zoneTimeframe label raw) (Timeframe.parse? raw)
  let originTime ← require (.zoneWithoutOrigin label)
    (timeOf? fs ["origin_time", "originTime", "start_time", "startTime", "time", "t"])
  let bound := fun names => require (.zoneWithoutBounds label) (numberOf? fs names)
  let a ← bound ["min", "low", "bottom", "bot", "zone_low", "lo"]
  let b ← bound ["max", "high", "top", "zone_high", "hi"]
  if !(a.isFinite && b.isFinite) then throw (.zoneNotFinite label a b)
  let (min, max) := if a ≤ b then (a, b) else (b, a)
  let kind := (((textOf? fs ["type", "zone_type", "zoneType", "kind"]).map zoneKind).or hint).getD
    (.other "zone")
  let role := roleOf fs
  let invalidatedTime := timeOf? fs
    ["invalidated_time", "invalidatedTime", "invalidation_time", "end_time", "endTime"]
  return {
    id := ownId.getD (anonymousId timeframe kind role originTime min max places)
    min
    max
    direction :=
      ((textOf? fs ["direction", "dir", "side", "bias"]).map zoneDirection).getD
        (usualDirection kind)
    kind
    role
    state :=
      ((textOf? fs ["state", "status"]).bind zoneState?).getD (inferredState fs invalidatedTime)
    score := (finiteOf? fs ["score", "quality_score", "qualityScore"]).getD 0.0
    strength := finiteOf? fs ["strength", "strength_score", "strengthScore"]
    confidence := finiteOf? fs ["confidence", "conf"]
    timeframe
    originTime
    invalidatedTime
    why := textsOf fs ["why", "reasons", "notes"] }

/-! ## All zones -/

/-- The entries of a delivery, each with the kind that its list suggests. -/
def zoneEntries (doc : Json) : List (Option ZoneKind × Json) :=
  let hinted := fun (key : String) (kind : ZoneKind) =>
    match doc.get? key with
    | some inner => (entries ["zones"] inner).map fun entry => (some kind, entry)
    | none => []
  (entries ["zones", "items", "data"] doc).map (fun entry => (none, entry))
    ++ hinted "supply_zones" .supply ++ hinted "demand_zones" .demand

/-- All zones of a delivery.
mirrors `normalize_zones` -/
def readZones (places : Nat) (doc : Json) : Delivery Zone :=
  .ofResults ((zoneEntries doc).map fun (hint, entry) => readZone hint places entry)

end ChartLayer.Feed
