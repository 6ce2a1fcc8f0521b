import ChartLayer.Annotation
import ChartLayer.Zone.Basic
import Std.Data.ExtTreeMap

/-!
# Drawings

What the surface draws: a band, two edges, a line or a stretch of time, with its style. Each mark on
the chart has one drawing, found by its family and its identity in that family.

* `Drawing.ofCluster`, `Drawing.ofPool`, `Drawing.ofLevel`, `Drawing.ofSession`: how the marks look.
* `Drawing.needsNew`: which changes cannot be made in place.
-/

namespace ChartLayer

/-- The kinds of marks on the chart.
mirrors `PrimitiveFamily` -/
inductive DrawingFamily where
  | zone
  | pool
  | level
  | session
  deriving DecidableEq, Repr

namespace DrawingFamily

def name : DrawingFamily → String
  | zone => "zone"
  | pool => "pool"
  | level => "level"
  | session => "session"

/-- The place of a family in the order of families. -/
def index : DrawingFamily → Nat
  | zone => 0
  | pool => 1
  | level => 2
  | session => 3

end DrawingFamily

/-- The name of a drawing: unique over all families.
mirrors `PrimitiveKey` -/
structure DrawingKey where
  family : DrawingFamily
  identity : String
  deriving DecidableEq, Repr

namespace DrawingKey

def text (k : DrawingKey) : String := k.family.name ++ ":" ++ k.identity

/-- By family, then by identity. -/
def order : DrawingKey → DrawingKey → Ordering :=
  compareLex (compareOn fun k => k.family.index) (compareOn fun k => k.identity)

instance : Std.TransCmp order :=
  inferInstanceAs (Std.TransCmp
    (compareLex (compareOn fun k : DrawingKey => k.family.index)
      (compareOn fun k : DrawingKey => k.identity)))

theorem eq_of_index_eq {a b : DrawingFamily} (h : a.index = b.index) : a = b := by
  revert h
  cases a <;> cases b <;> decide

instance : Std.LawfulEqCmp order where
  eq_of_compare {a b} h := by
    obtain ⟨fa, ia⟩ := a
    obtain ⟨fb, ib⟩ := b
    obtain ⟨hf, hi⟩ := Ordering.then_eq_eq.mp h
    have hf : fa = fb := eq_of_index_eq (Std.LawfulEqOrd.eq_of_compare hf)
    have hi : ia = ib := Std.LawfulEqOrd.eq_of_compare hi
    rw [hf, hi]

end DrawingKey

/-- The shape of a drawing.
mirrors `PrimitiveLayout` -/
inductive DrawingShape where
  /-- A rectangle from a start to the right edge. -/
  | band
  /-- Two edges, and a fill if there is one. -/
  | edgesWithFill
  | line
  /-- The whole height between two times. -/
  | timeBand
  deriving DecidableEq, Repr

def DrawingShape.name : DrawingShape → String
  | band => "band"
  | edgesWithFill => "edges_with_fill"
  | line => "line"
  | timeBand => "time_band"

/-- Where a drawing lies; what is missing is open.
mirrors `PrimitiveGeometry` -/
structure DrawingExtent where
  start : Option Time := none
  stop : Option Time := none
  top : Option Float := none
  bottom : Option Float := none
  deriving DecidableEq, Repr

/-- How a drawing looks.
mirrors `PrimitiveStyle` -/
structure DrawingStyle where
  color : String
  /-- Without an opacity there is no fill at all. -/
  fill : Option Float := none
  dashed : Bool := false
  text : Option String := none
  deriving DecidableEq, Repr

/-- What the surface is asked to draw.
mirrors `PrimitiveSpec` -/
structure Drawing where
  shape : DrawingShape
  extent : DrawingExtent
  style : DrawingStyle
  /-- Whether the price axis shows a badge. -/
  axisLabel : Bool := false
  deriving DecidableEq, Repr

namespace Drawing

/-- Two optional prices that are equal as numbers. -/
def samePrice : Option Float → Option Float → Bool
  | some x, some y => x == y
  | none, none => true
  | _, _ => false

/-- Whether nothing has to be drawn anew: all parts are equal, prices as numbers. -/
def sameAs (a b : Drawing) : Bool :=
  a.shape = b.shape && a.extent.start = b.extent.start && a.extent.stop = b.extent.stop
    && samePrice a.extent.top b.extent.top && samePrice a.extent.bottom b.extent.bottom
    && a.style.color = b.style.color && samePrice a.style.fill b.style.fill
    && a.style.dashed = b.style.dashed && a.style.text = b.style.text && a.axisLabel = b.axisLabel

/-- Whether `next` cannot be made out of `old` in place: the shape, the presence of a fill or of a
badge changes.
mirrors `PrimitiveSpec::is_structural_change` -/
def needsNew (old next : Drawing) : Bool :=
  old.shape != next.shape || old.style.fill.isSome != next.style.fill.isSome
    || old.axisLabel != next.axisLabel

/-! ## The marks -/

def directionColor : ZoneDirection → String
  | .bullish => "#26a69a"
  | .bearish => "#ef5350"
  | .neutral => "#9e9e9e"

/-- Zones fade as they are used up. -/
def stateFill : ZoneState → Float
  | .fresh => 0.25
  | .tested => 0.18
  | .mitigated => 0.10
  | .invalidated => 0.05

/-- mirrors `PrimitiveSpec::for_cluster` -/
def ofCluster (c : ZoneCluster) : Drawing :=
  let r := c.representative
  let name := r.timeframe.label ++ " " ++ r.kind.name
  let count := c.members.length
  { shape := .band
    extent := { start := some c.startTime, top := some c.max, bottom := some c.min }
    style :=
      { color := directionColor r.direction
        fill := some (stateFill r.state)
        dashed := r.state = .invalidated
        text := some (if 1 < count then name ++ " x" ++ Nat.repr count else name) } }

/-- A swept pool keeps its edges and loses its fill.
mirrors `PrimitiveSpec::for_pool` -/
def ofPool (p : Pool) : Drawing :=
  let active : Bool := p.status = .active
  { shape := .edgesWithFill
    extent := { top := some p.highEdge, bottom := some p.lowEdge }
    style :=
      { color := if active then "#ffb74d" else "#78909c"
        fill := if active then some 0.12 else none
        dashed := !active
        text := some (p.timeframe.label ++ " " ++ p.kind) } }

def levelColor : LevelKind → String
  | .premium => "#ef5350"
  | .discount => "#26a69a"
  | .equilibrium => "#9e9e9e"
  | .other => "#b0bec5"

def levelTitle : LevelKind → String
  | .premium => "premium"
  | .discount => "discount"
  | .equilibrium => "eq"
  | .other => "level"

/-- mirrors `PrimitiveSpec::for_level` -/
def ofLevel (l : Level) : Drawing :=
  { shape := .line
    extent := { top := some l.price, bottom := some l.price }
    style :=
      { color := levelColor l.kind
        dashed := l.kind = .equilibrium
        text := some <|
          match l.timeframe with
          | some tf => tf.label ++ " " ++ levelTitle l.kind
          | none => levelTitle l.kind }
    axisLabel := l.kind != .other }

/-- mirrors `PrimitiveSpec::for_session` -/
def ofSession (s : Session) : Drawing :=
  { shape := .timeBand
    extent := { start := some s.start, stop := some s.stop }
    style := { color := "#5c6bc0", fill := some 0.06, text := some s.tag } }

end Drawing

/-- The drawings wanted in one family, by identity. -/
abbrev DesiredDrawings := Std.ExtTreeMap String Drawing

end ChartLayer
