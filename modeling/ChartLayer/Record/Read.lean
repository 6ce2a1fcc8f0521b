import ChartLayer.Annotation
import ChartLayer.Bar.Basic
import ChartLayer.Json.Basic
import ChartLayer.Zone.Basic

/-!
# Records from documents

Reads the strict form of each record. A record is a document with named fields, of which unknown
ones are passed over, or a list of the fields in order. Nothing is guessed: a field of the wrong
sort refuses the record. How a double is written is left to the reader, as the parameter `float`;
the usual one, `Json.asFloat?`, takes numbers only.
-/

namespace ChartLayer

namespace Json

def asFloat? : Json → Option Float
  | .number n => some n.toFloat
  | _ => none

def asTime? : Json → Option Time
  | .number (.whole n) =>
    if Int64.minValue.toInt ≤ n ∧ n ≤ Int64.maxValue.toInt then some (Int64.ofInt n) else none
  | _ => none

def asText? : Json → Option String
  | .text s => some s
  | _ => none

def asBool? : Json → Option Bool
  | .bool b => some b
  | _ => none

/-- Null, or a value. -/
def asOption? {α : Type} (read : Json → Option α) : Json → Option (Option α)
  | .null => some none
  | doc => (read doc).map some

/-- A list of values. -/
def asList? {α : Type} (read : Json → Option α) : Json → Option (List α)
  | .list items => items.mapM read
  | _ => none

/-- A word, on its own or as the name of a field that is null. -/
def asWord? : Json → Option String
  | .text s => some s
  | .record [(name, .null)] => some name
  | _ => none

/-! ## Fields -/

/-- What a missing field means. -/
inductive Presence where
  | required
  /-- Null; a list of fields must hold it all the same. -/
  | optional
  /-- The usual value. -/
  | usual
  deriving DecidableEq, Repr

/-- The fields of a record by name. What is missing and has a usual value is none. -/
def fieldsByName? (fs : List (String × Json)) :
    List (String × Presence) → Option (List (Option Json))
  | [] => some []
  | (name, presence) :: rest => do
    let found ← match fs.lookup name, presence with
      | some v, _ => some (some v)
      | none, .required => none
      | none, .optional => some (some .null)
      | none, .usual => some none
    let others ← fieldsByName? fs rest
    return found :: others

/-- The fields of a record in order. -/
def fieldsInOrder? : List Json → List (String × Presence) → Option (List (Option Json))
  | [], [] => some []
  | _ :: _, [] => none
  | v :: vs, _ :: rest => (fieldsInOrder? vs rest).map (some v :: ·)
  | [], (_, presence) :: rest =>
    if presence = .usual then (fieldsInOrder? [] rest).map (none :: ·) else none

/-- The fields of a record in either form. -/
def fields? (names : List (String × Presence)) : Json → Option (List (Option Json))
  | .record fs => fieldsByName? fs names
  | .list items => fieldsInOrder? items names
  | _ => none

end Json

open Json (asTime? asText? asBool? asOption? asList? asWord? asFloat? fields?)

/-- A field that has a usual value. -/
def orUsual {α : Type} (read : Json → Option α) (usual : α) : Option Json → Option α
  | some doc => read doc
  | none => some usual

/-- Seconds, or a label. -/
def Timeframe.ofJson? : Json → Option Timeframe
  | .text s => Timeframe.parse? s
  | doc => (asTime? doc).bind Timeframe.ofSecs?

def Bar.ofJson? (float : Json → Option Float) (doc : Json) : Option Bar :=
  match fields? [("time", .required), ("open", .required), ("high", .required), ("low", .required),
      ("close", .required), ("volume", .usual), ("complete", .usual)] doc with
  | some [some time, some openPrice, some high, some low, some close, volume, complete] => do
    return {
      time := ← asTime? time
      openPrice := ← float openPrice
      highPrice := ← float high
      lowPrice := ← float low
      closePrice := ← float close
      volume := ← orUsual float 0.0 volume
      complete := ← orUsual asBool? true complete }
  | _ => none

/-! ## Zones -/

def ZoneDirection.ofJson? (doc : Json) : Option ZoneDirection :=
  match asWord? doc with
  | some "bullish" => some .bullish
  | some "bearish" => some .bearish
  | some "neutral" => some .neutral
  | _ => none

/-- A word, or a record that holds the text of another kind. -/
def ZoneKind.ofJson? : Json → Option ZoneKind
  | .record [("other", .text name)] => some (.other name)
  | doc =>
    match asWord? doc with
    | some "supply" => some .supply
    | some "demand" => some .demand
    | some "order_block" => some .orderBlock
    | some "fair_value_gap" => some .fairValueGap
    | some "breaker" => some .breaker
    | some "liquidity" => some .liquidity
    | _ => none

def ZoneRole.ofJson? (doc : Json) : Option ZoneRole :=
  match asWord? doc with
  | some "point_of_interest" => some .pointOfInterest
  | some "entry" => some .entry
  | some "target" => some .target
  | some "context" => some .context
  | _ => none

def ZoneState.ofJson? (doc : Json) : Option ZoneState :=
  match asWord? doc with
  | some "fresh" => some .fresh
  | some "tested" => some .tested
  | some "mitigated" => some .mitigated
  | some "invalidated" => some .invalidated
  | _ => none

def Zone.ofJson? (float : Json → Option Float) (doc : Json) : Option Zone :=
  match fields? [("id", .required), ("min", .required), ("max", .required),
      ("direction", .required), ("kind", .required), ("role", .required), ("state", .required),
      ("score", .required), ("strength", .optional), ("confidence", .optional),
      ("timeframe", .required), ("origin_time", .required), ("invalidated_time", .optional),
      ("why", .usual)] doc with
  | some [some id, some min, some max, some direction, some kind, some role, some state, some score,
      some strength, some confidence, some timeframe, some origin, some invalidated, why] => do
    return {
      id := ← asText? id
      min := ← float min
      max := ← float max
      direction := ← ZoneDirection.ofJson? direction
      kind := ← ZoneKind.ofJson? kind
      role := ← ZoneRole.ofJson? role
      state := ← ZoneState.ofJson? state
      score := ← float score
      strength := ← asOption? float strength
      confidence := ← asOption? float confidence
      timeframe := ← Timeframe.ofJson? timeframe
      originTime := ← asTime? origin
      invalidatedTime := ← asOption? asTime? invalidated
      why := ← orUsual (asList? asText?) [] why }
  | _ => none

def ZoneCluster.ofJson? (float : Json → Option Float) (doc : Json) : Option ZoneCluster :=
  match fields? [("representative", .required), ("members", .required), ("start_time", .required),
      ("min", .required), ("max", .required)] doc with
  | some [some representative, some members, some start, some min, some max] => do
    return {
      representative := ← Zone.ofJson? float representative
      members := ← asList? (Zone.ofJson? float) members
      startTime := ← asTime? start
      min := ← float min
      max := ← float max }
  | _ => none

def LimitMode.ofJson? (doc : Json) : Option LimitMode :=
  match asWord? doc with
  | some "near1" => some .near1
  | some "near2" => some .near2
  | some "all" => some .all
  | _ => none

/-! ## Other marks -/

def PoolStatus.ofJson? (doc : Json) : Option PoolStatus :=
  match asWord? doc with
  | some "active" => some .active
  | some "swept" => some .swept
  | _ => none

def PoolSide.ofJson? (doc : Json) : Option PoolSide :=
  match asWord? doc with
  | some "buy_side" => some .buySide
  | some "sell_side" => some .sellSide
  | _ => none

def Pool.ofJson? (float : Json → Option Float) (doc : Json) : Option Pool :=
  match fields? [("id", .required), ("timeframe", .required), ("top", .required),
      ("bot", .required), ("status", .required), ("kind", .required), ("side", .required)] doc with
  | some [some id, some timeframe, some top, some bottom, some status, some kind, some side] => do
    return {
      id := ← asText? id
      timeframe := ← Timeframe.ofJson? timeframe
      top := ← float top
      bottom := ← float bottom
      status := ← PoolStatus.ofJson? status
      kind := ← asText? kind
      side := ← PoolSide.ofJson? side }
  | _ => none

def LevelKind.ofJson? (doc : Json) : Option LevelKind :=
  match asWord? doc with
  | some "premium" => some .premium
  | some "discount" => some .discount
  | some "equilibrium" => some .equilibrium
  | some "other" => some .other
  | _ => none

def Level.ofJson? (float : Json → Option Float) (doc : Json) : Option Level :=
  match fields? [("id", .required), ("price", .required), ("kind", .required),
      ("timeframe", .optional)] doc with
  | some [some id, some price, some kind, some timeframe] => do
    return {
      id := ← asText? id
      price := ← float price
      kind := ← LevelKind.ofJson? kind
      timeframe := ← asOption? Timeframe.ofJson? timeframe }
  | _ => none

def Session.ofJson? (doc : Json) : Option Session :=
  match fields? [("start", .required), ("end", .required), ("tag", .required)] doc with
  | some [some start, some stop, some tag] => do
    return { start := ← asTime? start, stop := ← asTime? stop, tag := ← asText? tag }
  | _ => none

def TimeSpan.ofJson? (doc : Json) : Option TimeSpan :=
  match fields? [("from", .required), ("to", .required)] doc with
  | some [some start, some stop] => do
    return { start := ← asTime? start, stop := ← asTime? stop }
  | _ => none

end ChartLayer
