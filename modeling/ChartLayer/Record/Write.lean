import ChartLayer.Annotation
import ChartLayer.Bar.Basic
import ChartLayer.Drawing.Basic
import ChartLayer.Json.Basic
import ChartLayer.Label
import ChartLayer.Zone.Selection

/-!
# Records as documents

The strict form of each record: one field for each part, the names of the parts fixed, nothing left
out. A double that is not finite is null.
-/

namespace ChartLayer

def Timeframe.toJson (tf : Timeframe) : Json := .text tf.label

def timeJson (t : Time) : Json := .int t.toInt

def Bar.toJson (b : Bar) : Json :=
  .record
    [("time", timeJson b.time), ("open", .float b.openPrice), ("high", .float b.highPrice),
     ("low", .float b.lowPrice), ("close", .float b.closePrice), ("volume", .float b.volume),
     ("complete", .bool b.complete)]

/-! ## Zones -/

def ZoneDirection.toJson : ZoneDirection → Json
  | bullish => .text "bullish"
  | bearish => .text "bearish"
  | neutral => .text "neutral"

/-- A kind without a word of its own is a record. -/
def ZoneKind.toJson : ZoneKind → Json
  | other name => .record [("other", .text name)]
  | kind => .text kind.name

def ZoneRole.toJson : ZoneRole → Json
  | pointOfInterest => .text "point_of_interest"
  | entry => .text "entry"
  | target => .text "target"
  | context => .text "context"

def ZoneState.name : ZoneState → String
  | fresh => "fresh"
  | tested => "tested"
  | mitigated => "mitigated"
  | invalidated => "invalidated"

def Zone.toJson (z : Zone) : Json :=
  .record
    [("id", .text z.id), ("min", .float z.min), ("max", .float z.max),
     ("direction", z.direction.toJson), ("kind", z.kind.toJson), ("role", z.role.toJson),
     ("state", .text z.state.name), ("score", .float z.score),
     ("strength", .option .float z.strength), ("confidence", .option .float z.confidence),
     ("timeframe", z.timeframe.toJson), ("origin_time", timeJson z.originTime),
     ("invalidated_time", .option timeJson z.invalidatedTime), ("why", .list (z.why.map .text))]

def ZoneCluster.toJson (c : ZoneCluster) : Json :=
  .record
    [("representative", c.representative.toJson), ("members", .list (c.members.map Zone.toJson)),
     ("start_time", timeJson c.startTime), ("min", .float c.min), ("max", .float c.max)]

def SelectionCounts.toJson (s : SelectionCounts) : Json :=
  .record
    [("input", .nat s.input), ("non_finite", .nat s.nonFinite), ("duplicates", .nat s.duplicates),
     ("untrusted", .nat s.untrusted), ("refined_out", .nat s.refinedOut),
     ("clusters", .nat s.clusters)]

def Selection.toJson (s : Selection) : Json :=
  .record
    [("clusters", .list (s.clusters.map ZoneCluster.toJson)),
     ("zones", .list (s.zones.map Zone.toJson)),
     ("reference_price", .option .float s.reference), ("stats", s.stats.toJson)]

def LimitMode.toJson (m : LimitMode) : Json := .text m.name

/-! ## Other marks -/

def PoolStatus.toJson : PoolStatus → Json
  | active => .text "active"
  | swept => .text "swept"

def PoolSide.toJson : PoolSide → Json
  | buySide => .text "buy_side"
  | sellSide => .text "sell_side"

def Pool.toJson (p : Pool) : Json :=
  .record
    [("id", .text p.id), ("timeframe", p.timeframe.toJson), ("top", .float p.top),
     ("bot", .float p.bottom), ("status", p.status.toJson), ("kind", .text p.kind),
     ("side", p.side.toJson)]

def Level.toJson (l : Level) : Json :=
  .record
    [("id", .text l.id), ("price", .float l.price), ("kind", .text l.kind.name),
     ("timeframe", .option Timeframe.toJson l.timeframe)]

def Session.toJson (s : Session) : Json :=
  .record [("start", timeJson s.start), ("end", timeJson s.stop), ("tag", .text s.tag)]

def TimeSpan.toJson (s : TimeSpan) : Json :=
  .record [("from", timeJson s.start), ("to", timeJson s.stop)]

/-! ## What is drawn -/

def PriceRange.toJson (r : PriceRange Float) : Json :=
  .record [("min", .float r.min), ("max", .float r.max)]

def Drawing.toJson (s : Drawing) : Json :=
  .record
    [("layout", .text s.shape.name),
     ("geometry", .record
       [("start_time", .option timeJson s.extent.start),
        ("end_time", .option timeJson s.extent.stop),
        ("top", .option .float s.extent.top), ("bottom", .option .float s.extent.bottom)]),
     ("style", .record
       [("color", .text s.style.color), ("fill_opacity", .option .float s.style.fill),
        ("dashed", .bool s.style.dashed), ("text", .option .text s.style.text)]),
     ("axis_label", .bool s.axisLabel)]

def LabelLayout.toJson (l : LabelLayout Float) : Json :=
  .record
    [("placed", .list (l.placed.map fun p => .record [("id", .text p.id), ("y", .float p.y)])),
     ("hidden", .list (l.hidden.map .text))]

end ChartLayer
