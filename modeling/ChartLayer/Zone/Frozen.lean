import ChartLayer.Zone.Basic
import Std.Data.ExtTreeMap

/-!
# Frozen geometry

What is once shown does not move. The first geometry of an identity is kept for as long as the
identity is delivered, and put in the place of whatever later deliveries say; for zones, and by the
id of the representative for clusters.
-/

namespace ChartLayer

/-- Bounds and origin as first seen.
mirrors `FrozenGeometry` -/
structure Geometry where
  min : Float
  max : Float
  origin : Time
  deriving DecidableEq, Repr

namespace Geometry

def ofZone (z : Zone) : Geometry := ⟨z.min, z.max, z.originTime⟩

def ofCluster (c : ZoneCluster) : Geometry := ⟨c.min, c.max, c.startTime⟩

/-- Whether another geometry is a different one; the two zeros are the same price. -/
def differs (g h : Geometry) : Bool :=
  !(g.min == h.min) || !(g.max == h.max) || g.origin != h.origin

/-- The zone with this geometry. -/
def applyZone (g : Geometry) (z : Zone) : Zone :=
  { z with min := g.min, max := g.max, originTime := g.origin }

/-- The cluster with this geometry. -/
def applyCluster (g : Geometry) (c : ZoneCluster) : ZoneCluster :=
  { c with min := g.min, max := g.max, startTime := g.origin }

end Geometry

/-- The geometry kept for each identity.
mirrors `GeometryFreeze` -/
structure Frozen where
  zones : Std.ExtTreeMap String Geometry := ∅
  clusters : Std.ExtTreeMap String Geometry := ∅

namespace Frozen

/-- A zone as it is shown, whether that differs from what was delivered, and what is kept now.
mirrors `GeometryFreeze::freeze_zone` -/
def showZone (z : Zone) (f : Frozen) : (Zone × Bool) × Frozen :=
  match f.zones[z.id]? with
  | some g => ((g.applyZone z, g.differs (.ofZone z)), f)
  | none => ((z, false), { f with zones := f.zones.insert z.id (.ofZone z) })

/-- The same for a cluster.
mirrors `GeometryFreeze::freeze_cluster` -/
def showCluster (c : ZoneCluster) (f : Frozen) : (ZoneCluster × Bool) × Frozen :=
  match f.clusters[c.id]? with
  | some g => ((g.applyCluster c, g.differs (.ofCluster c)), f)
  | none => ((c, false), { f with clusters := f.clusters.insert c.id (.ofCluster c) })

/-- Zones as they are shown, frozen from first to last. -/
def showZones : List Zone → Frozen → List Zone × Frozen
  | [], f => ([], f)
  | z :: rest, f =>
    let ((shown, _), f) := f.showZone z
    let (others, f) := showZones rest f
    (shown :: others, f)

/-- Clusters as they are shown, frozen from first to last. -/
def showClusters : List ZoneCluster → Frozen → List ZoneCluster × Frozen
  | [], f => ([], f)
  | c :: rest, f =>
    let ((shown, _), f) := f.showCluster c
    let (others, f) := showClusters rest f
    (shown :: others, f)

/-- How many geometries are kept. -/
def count (f : Frozen) : Nat := f.zones.size + f.clusters.size

/-- Lets go of the identities that are not `present`, and counts what is let go.
mirrors `GeometryFreeze::retain_present` -/
def retain (present : List String) (f : Frozen) : Nat × Frozen :=
  let kept : Frozen :=
    { zones := f.zones.filter fun id _ => present.contains id
      clusters := f.clusters.filter fun id _ => present.contains id }
  (f.count - kept.count, kept)

end Frozen

end ChartLayer
