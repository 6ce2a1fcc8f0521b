import ChartLayer.Annotation
import ChartLayer.Feed.Field

/-!
# Pools, levels and sessions of a delivery

A pool needs an id, a timeframe and two finite edges; a level a finite price; a session a start and
a later end. A level without an id is named by its kind and timeframe.
-/

namespace ChartLayer.Feed

open Quantity (larger smaller)

/-! ## Pools -/

/-- Whether a word stands somewhere in a text. -/
def hasWord (word : List Char) : List Char → Bool
  | [] => word.isEmpty
  | c :: rest => word.isPrefixOf (c :: rest) || hasWord word rest

/-- The side of a pool: as it is named, or else as its kind suggests. -/
def poolSide (named : Option String) (kind : String) : PoolSide :=
  let word := (named.map lowercase).getD ""
  if ["buy", "buy_side", "buyside", "bsl", "above", "high"].contains word then .buySide
  else if ["sell", "sell_side", "sellside", "ssl", "below", "low"].contains word then .sellSide
  else if hasWord "high".toList kind.toList || hasWord "bsl".toList kind.toList then .buySide
  else .sellSide

/-- The status of a pool: as it is named, or else by a flag. -/
def poolStatus (named : Option String) (swept : Bool) : PoolStatus :=
  let word := (named.map lowercase).getD ""
  if ["swept", "taken", "mitigated", "grabbed"].contains word || swept then .swept else .active

/-- One pool.
mirrors `normalize_pool` -/
def readPool (doc : Json) : Except Issue Pool := do
  let fs ← fieldsOf "pool" doc
  let id ← require .poolWithoutId (textOf? fs ["id", "pool_id", "poolId"])
  let raw ← require (.poolWithoutTimeframe id) (textOf? fs ["timeframe", "tf", "interval"])
  let timeframe ← require (.poolTimeframe id raw) (Timeframe.parse? raw)
  let edge := fun names => require (.poolWithoutEdges id) (numberOf? fs names)
  let a ← edge ["top", "max", "high"]
  let b ← edge ["bot", "bottom", "min", "low"]
  if !(a.isFinite && b.isFinite) then throw (.poolNotFinite id)
  let kind := ((textOf? fs ["kind", "type"]).map lowercase).getD "pool"
  return {
    id
    timeframe
    top := larger a b
    bottom := smaller a b
    status :=
      poolStatus (textOf? fs ["status", "state"])
        ((flagOf? fs ["swept", "is_swept", "isSwept"]).getD false)
    kind
    side := poolSide (textOf? fs ["side", "direction"]) kind }

/-- All pools of a delivery.
mirrors `normalize_pools` -/
def readPools (doc : Json) : Delivery Pool :=
  .ofResults ((entries ["pools", "liquidity", "items"] doc).map readPool)

/-! ## Levels -/

/-- mirrors `parse_level_kind` -/
def levelKind (raw : String) : LevelKind :=
  let word := lowercase raw
  if word = "premium" then .premium
  else if word = "discount" then .discount
  else if ["equilibrium", "eq", "mid", "50%"].contains word then .equilibrium
  else .other

/-- The id of a level that has none of its own. -/
def levelId (kind : LevelKind) (timeframe : Option Timeframe) : String :=
  kind.name ++ "@" ++ (timeframe.map Timeframe.label).getD "any"

/-- One level.
mirrors `normalize_level` -/
def readLevel (doc : Json) : Except Issue Level := do
  let fs ← fieldsOf "level" doc
  let price ← require .levelWithoutPrice (numberOf? fs ["price", "value", "level", "y"])
  if !price.isFinite then throw .levelNotFinite
  let kind := ((textOf? fs ["kind", "type", "zone"]).map levelKind).getD .other
  let timeframe := (textOf? fs ["timeframe", "tf"]).bind Timeframe.parse?
  return {
    id := (textOf? fs ["id", "level_id", "levelId"]).getD (levelId kind timeframe)
    price
    kind
    timeframe }

/-- All levels of a delivery.
mirrors `normalize_levels` -/
def readLevels (doc : Json) : Delivery Level :=
  .ofResults ((entries ["levels", "items"] doc).map readLevel)

/-! ## Sessions -/

/-- One session.
mirrors `normalize_session` -/
def readSession (doc : Json) : Except Issue Session := do
  let fs ← fieldsOf "session" doc
  let start ← require .sessionWithoutTimes (timeOf? fs ["start", "from", "open"])
  let stop ← require .sessionWithoutTimes (timeOf? fs ["end", "to", "close"])
  if stop ≤ start then throw (.sessionEmpty start stop)
  return { start, stop, tag := (textOf? fs ["tag", "name", "session", "label"]).getD "session" }

/-- All sessions of a delivery.
mirrors `normalize_sessions` -/
def readSessions (doc : Json) : Delivery Session :=
  .ofResults ((entries ["sessions", "windows", "items"] doc).map readSession)

end ChartLayer.Feed
