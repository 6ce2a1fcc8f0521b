import ChartLayer.Layer.InnerState
import ChartLayer.Surface.Memory
import ChartLayer.Text.Separated

/-!
# Reports

What a layer without a screen would draw, as a document and as a table of its clusters.
-/

namespace ChartLayer

/-- A cluster in a report.
mirrors `ClusterRow` -/
structure ClusterSummary where
  id : String
  min : Float
  max : Float
  startTime : Time
  /-- The number of its members. -/
  members : Nat
  /-- The timeframes of its members, from fine to coarse, each once. -/
  timeframes : List Timeframe
  role : ZoneRole
  deriving DecidableEq, Repr

namespace ClusterSummary

/-- Timeframes from fine to coarse, each once. -/
def ladder (timeframes : List Timeframe) : List Timeframe :=
  (timeframes.mergeSort fun a b => a.secs ≤ b.secs).eraseReps

/-- mirrors `ClusterRow::from` -/
def ofCluster (c : ZoneCluster) : ClusterSummary where
  id := c.id
  min := c.min
  max := c.max
  startTime := c.startTime
  members := c.members.length
  timeframes := ladder (c.members.map (·.timeframe))
  role := c.representative.role

/-- The timeframes as one text. -/
def timeframeText (row : ClusterSummary) : String :=
  String.intercalate "|" (row.timeframes.map Timeframe.label)

def toJson (row : ClusterSummary) : Json :=
  .record
    [("id", .text row.id), ("min", .float row.min), ("max", .float row.max),
     ("start_time", timeJson row.startTime), ("members", .nat row.members),
     ("timeframes", .text row.timeframeText), ("role", .text row.role.tag)]

/-- The titles of the fields of a row. -/
def titles : List String := ["id", "min", "max", "start_time", "members", "timeframes", "role"]

def fields (row : ClusterSummary) : List String :=
  [row.id, Notation.table.write row.min, Notation.table.write row.max, timeText row.startTime,
   Nat.repr row.members, row.timeframeText, row.role.tag]

end ClusterSummary

/-- What a layer would draw.
mirrors `Report` -/
structure Report where
  reference : Option Float
  stats : SelectionCounts
  clusters : List ClusterSummary
  labels : LabelLayout Float
  /-- The key and the text of each drawing. -/
  drawings : List (DrawingKey × String)
  /-- How many items were dropped from the snapshot. -/
  malformed : Nat
  inner : Option InnerState
  deriving DecidableEq, Repr

namespace Report

/-- The report on a layer. -/
def ofLayer (malformed : Nat) (l : Layer MemorySurface) : Report where
  reference := l.selection.reference
  stats := l.selection.stats
  clusters := l.selection.clusters.map ClusterSummary.ofCluster
  labels := l.labels
  drawings := l.surface.drawings.map fun p => (p.key, p.drawing.style.text.getD "")
  malformed
  inner := l.innerState?

/-- The fields of the report as a document. -/
def fields (r : Report) : List (String × Json) :=
  [("reference_price", .option .float r.reference), ("stats", r.stats.toJson),
   ("clusters", .list (r.clusters.map ClusterSummary.toJson)), ("labels", r.labels.toJson),
   ("primitives", .list (r.drawings.map fun (key, text) => .list [.text key.text, .text text])),
   ("malformed", .nat r.malformed)]
    ++ (r.inner.map fun d => ("diagnostics", d.toJson)).toList

/-- The clusters as a table.
mirrors `write_csv` -/
def table (r : Report) : String :=
  Separated.table ClusterSummary.titles (r.clusters.map ClusterSummary.fields)

end Report

end ChartLayer
