import ChartLayer.Zone.Frozen

/-!
# What freezing does

Zones and clusters are frozen in the same way (`Freezing`): the first geometry of an identity is
kept and put in the place of every later one.

* `Freezing.getElem?_keepFirst`: an identity keeps the geometry it had, else that of its first item.
* `Freezing.kept_of_mem`: what is shown has the geometry that is kept afterwards.
* `Frozen.showZones_eq`, `Frozen.showClusters_eq`: zones and clusters are frozen in this way.
* `Freezing.map_shownBy_of_keeps`: only the geometry kept of an item decides where it is shown.
* `Frozen.zones_retain`, `Frozen.clusters_retain`: only what is not present is let go.
-/

namespace ChartLayer

/-- A geometry for each identity. -/
abbrev GeometryMap := Std.ExtTreeMap String Geometry

/-- Items that can be frozen: what names them, where they lie, and how they are put elsewhere. -/
structure Freezing (α : Type) where
  id : α → String
  geometry : α → Geometry
  move : Geometry → α → α
  id_move : ∀ g x, id (move g x) = id x
  geometry_move : ∀ g x, geometry (move g x) = g
  move_geometry : ∀ x, move (geometry x) x = x

namespace Freezing

variable {α : Type} (F : Freezing α)

/-- What is kept after an item. -/
def keep (x : α) (kept : GeometryMap) : GeometryMap :=
  match kept[F.id x]? with
  | some _ => kept
  | none => kept.insert (F.id x) (F.geometry x)

/-- What is kept after some items: what was kept before, and the first of each new identity. -/
def keepFirst : List α → GeometryMap → GeometryMap
  | [], kept => kept
  | x :: rest, kept => keepFirst rest (F.keep x kept)

/-- An item where a map of kept geometries has it. -/
def shownBy (kept : GeometryMap) (x : α) : α := F.move (kept[F.id x]?.getD (F.geometry x)) x

theorem keep_of_some {kept : GeometryMap} {x : α} {g : Geometry} (h : kept[F.id x]? = some g) :
    F.keep x kept = kept := by
  unfold keep; rw [h]

theorem keep_of_none {kept : GeometryMap} {x : α} (h : kept[F.id x]? = none) :
    F.keep x kept = kept.insert (F.id x) (F.geometry x) := by
  unfold keep; rw [h]

theorem getElem?_keepFirst (items : List α) (kept : GeometryMap) (id : String) :
    (F.keepFirst items kept)[id]? =
      kept[id]?.or ((items.find? fun x => F.id x = id).map F.geometry) := by
  induction items generalizing kept with
  | nil => simp [keepFirst]
  | cons x rest ih =>
    rw [keepFirst, ih]
    cases hk : kept[F.id x]? with
    | some g =>
      rw [keep_of_some F hk]
      by_cases hx : F.id x = id
      · subst hx; simp [hk]
      · simp [hx]
    | none =>
      rw [keep_of_none F hk, Std.ExtTreeMap.getElem?_insert]
      by_cases hx : F.id x = id
      · subst hx; simp [hk]
      · simp [hx]

/-- A geometry once kept stays. -/
theorem keepFirst_keeps {items : List α} {kept : GeometryMap} {id : String} {g : Geometry}
    (h : kept[id]? = some g) : (F.keepFirst items kept)[id]? = some g := by
  rw [getElem?_keepFirst, h]; rfl

/-- Every item's identity has a geometry afterwards. -/
theorem keepFirst_isSome {items : List α} {x : α} (hx : x ∈ items) (kept : GeometryMap) :
    ∃ g, (F.keepFirst items kept)[F.id x]? = some g := by
  rw [getElem?_keepFirst]
  cases kept[F.id x]? with
  | some g => exact ⟨g, rfl⟩
  | none =>
    cases hf : items.find? (fun y => F.id y = F.id x) with
    | some y => exact ⟨F.geometry y, rfl⟩
    | none => simpa using List.find?_eq_none.mp hf x hx

@[simp] theorem id_shownBy (kept : GeometryMap) (x : α) : F.id (F.shownBy kept x) = F.id x :=
  F.id_move _ x

theorem shownBy_of_none {kept : GeometryMap} {x : α} (h : kept[F.id x]? = none) :
    F.shownBy kept x = x := by
  unfold shownBy; rw [h]; exact F.move_geometry x

theorem shownBy_of_some {kept : GeometryMap} {x : α} {g : Geometry}
    (h : kept[F.id x]? = some g) : F.shownBy kept x = F.move g x := by
  unfold shownBy; rw [h]; rfl

/-- An item lies where it is kept. -/
theorem shownBy_of_kept {kept : GeometryMap} {x : α} (h : kept[F.id x]? = some (F.geometry x)) :
    F.shownBy kept x = x := by
  rw [shownBy_of_some F h, F.move_geometry]

/-- The items behind the first one do not change how it is shown. -/
theorem shownBy_keepFirst_cons (x : α) (rest : List α) (kept : GeometryMap) :
    F.shownBy (F.keepFirst (x :: rest) kept) x = F.shownBy kept x := by
  cases hk : kept[F.id x]? with
  | some g => rw [shownBy_of_some F (keepFirst_keeps F hk), shownBy_of_some F hk]
  | none =>
    have hfirst : (F.keepFirst (x :: rest) kept)[F.id x]? = some (F.geometry x) := by
      simp [getElem?_keepFirst, hk]
    rw [shownBy_of_some F hfirst, shownBy_of_none F hk, F.move_geometry]

/-- **Shown is kept.** The geometry of an item that is shown is the one kept. -/
theorem kept_of_mem {items : List α} {kept : GeometryMap} {y : α}
    (h : y ∈ items.map (F.shownBy (F.keepFirst items kept))) :
    (F.keepFirst items kept)[F.id y]? = some (F.geometry y) := by
  obtain ⟨x, hx, rfl⟩ := List.mem_map.mp h
  obtain ⟨g, hg⟩ := keepFirst_isSome F hx kept
  rw [id_shownBy, hg, shownBy_of_some F hg, F.geometry_move]

/-- Items that all have a geometry already add none. -/
theorem keepFirst_of_kept {items : List α} {kept : GeometryMap}
    (h : ∀ x ∈ items, ∃ g, kept[F.id x]? = some g) : F.keepFirst items kept = kept := by
  induction items with
  | nil => rfl
  | cons x rest ih =>
    rw [List.forall_mem_cons] at h
    obtain ⟨⟨g, hg⟩, hrest⟩ := h
    rw [keepFirst, keep_of_some F hg]
    exact ih hrest

/-- A map that has every geometry which another one keeps of some items shows them in the same
places. -/
theorem map_shownBy_of_keeps {items : List α} {kept other : GeometryMap}
    (hkeeps : ∀ x ∈ items, ∀ g, (F.keepFirst items kept)[F.id x]? = some g →
      other[F.id x]? = some g) :
    items.map (F.shownBy (F.keepFirst items other)) =
      items.map (F.shownBy (F.keepFirst items kept)) := by
  refine List.map_congr_left fun x hx => ?_
  obtain ⟨g, hg⟩ := keepFirst_isSome F hx kept
  have hother : (F.keepFirst items other)[F.id x]? = some g :=
    keepFirst_keeps F (hkeeps x hx g hg)
  rw [shownBy_of_some F hother, shownBy_of_some F hg]

/-- Zones lie between their bounds, from their origin on. -/
def ofZones : Freezing Zone where
  id := Zone.id
  geometry := .ofZone
  move := Geometry.applyZone
  id_move _ _ := rfl
  geometry_move _ _ := rfl
  move_geometry _ := rfl

/-- Clusters lie between their bounds, from their start on; the representative names them. -/
def ofClusters : Freezing ZoneCluster where
  id := ZoneCluster.id
  geometry := .ofCluster
  move := Geometry.applyCluster
  id_move _ _ := rfl
  geometry_move _ _ := rfl
  move_geometry _ := rfl

end Freezing

namespace Frozen

open Freezing (ofZones ofClusters)

/-! ## Zones -/

theorem showZone_eq (z : Zone) (f : Frozen) :
    (f.showZone z).1.1 = ofZones.shownBy f.zones z ∧
      (f.showZone z).2 = { f with zones := ofZones.keep z f.zones } := by
  unfold showZone
  split <;> rename_i h
  · exact ⟨(Freezing.shownBy_of_some ofZones h).symm, by rw [Freezing.keep_of_some ofZones h]⟩
  · exact ⟨(Freezing.shownBy_of_none ofZones h).symm, by rw [Freezing.keep_of_none ofZones h]; rfl⟩

/-- **Zones shown.** Each zone is shown as the geometry kept afterwards has it. -/
theorem showZones_eq (zones : List Zone) (f : Frozen) :
    f.showZones zones =
      (zones.map (ofZones.shownBy (ofZones.keepFirst zones f.zones)),
       { f with zones := ofZones.keepFirst zones f.zones }) := by
  induction zones generalizing f with
  | nil => rfl
  | cons z rest ih =>
    obtain ⟨hfst, hsnd⟩ := showZone_eq z f
    rw [List.map_cons, Freezing.shownBy_keepFirst_cons, showZones]
    simp only [ih, hfst, hsnd]
    rfl

theorem showZones_ids (zones : List Zone) (f : Frozen) :
    (f.showZones zones).1.map Zone.id = zones.map Zone.id := by
  rw [showZones_eq, List.map_map]; rfl

/-! ## Clusters -/

theorem showCluster_eq (c : ZoneCluster) (f : Frozen) :
    (f.showCluster c).1.1 = ofClusters.shownBy f.clusters c ∧
      (f.showCluster c).2 = { f with clusters := ofClusters.keep c f.clusters } := by
  unfold showCluster
  split <;> rename_i h
  · exact ⟨(Freezing.shownBy_of_some ofClusters h).symm,
      by rw [Freezing.keep_of_some ofClusters h]⟩
  · exact ⟨(Freezing.shownBy_of_none ofClusters h).symm,
      by rw [Freezing.keep_of_none ofClusters h]; rfl⟩

/-- **Clusters shown.** Each cluster is shown as the geometry kept afterwards has it. -/
theorem showClusters_eq (clusters : List ZoneCluster) (f : Frozen) :
    f.showClusters clusters =
      (clusters.map (ofClusters.shownBy (ofClusters.keepFirst clusters f.clusters)),
       { f with clusters := ofClusters.keepFirst clusters f.clusters }) := by
  induction clusters generalizing f with
  | nil => rfl
  | cons c rest ih =>
    obtain ⟨hfst, hsnd⟩ := showCluster_eq c f
    rw [List.map_cons, Freezing.shownBy_keepFirst_cons, showClusters]
    simp only [ih, hfst, hsnd]
    rfl

theorem showClusters_ids (clusters : List ZoneCluster) (f : Frozen) :
    (f.showClusters clusters).1.map ZoneCluster.id = clusters.map ZoneCluster.id := by
  rw [showClusters_eq, List.map_map]; rfl

/-! ## Letting go -/

theorem zones_retain (present : List String) (f : Frozen) (id : String) :
    (f.retain present).2.zones[id]? = f.zones[id]?.filter fun _ => present.contains id :=
  Std.ExtTreeMap.getElem?_filter'

theorem clusters_retain (present : List String) (f : Frozen) (id : String) :
    (f.retain present).2.clusters[id]? = f.clusters[id]?.filter fun _ => present.contains id :=
  Std.ExtTreeMap.getElem?_filter'

/-- Where all is present, nothing is let go. -/
theorem retain_of_present {f : Frozen} {present : List String}
    (hzones : ∀ {id : String} {g : Geometry}, f.zones[id]? = some g → id ∈ present)
    (hclusters : ∀ {id : String} {g : Geometry}, f.clusters[id]? = some g → id ∈ present) :
    (f.retain present).2 = f := by
  have hall {o : Option Geometry} {id : String} (h : ∀ g, o = some g → id ∈ present) :
      (o.filter fun _ => present.contains id) = o := by
    cases o with
    | none => rfl
    | some g => exact Option.filter_some_pos (List.contains_iff_mem.mpr (h g rfl))
  have hz : (f.retain present).2.zones = f.zones :=
    Std.ExtTreeMap.ext_getElem? fun id => (zones_retain present f id).trans (hall fun _ => hzones)
  have hc : (f.retain present).2.clusters = f.clusters :=
    Std.ExtTreeMap.ext_getElem? fun id =>
      (clusters_retain present f id).trans (hall fun _ => hclusters)
  exact Frozen.mk.injEq _ _ _ _ ▸ ⟨hz, hc⟩

end Frozen

end ChartLayer
