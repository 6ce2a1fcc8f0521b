import ChartLayer.Proofs.Zone.Order
import ChartLayer.Zone.Sweep

/-!
# The members of the clusters

A sweep loses no zone and shows none twice: the members of its clusters, one after the other, are
the zones from low to high (`members_clustersOf`). A cluster is named by one of its members
(`representative_mem`), so zones with distinct ids give clusters with distinct ids
(`nodup_ids_clustersOf`).
-/

namespace ChartLayer

open Quantity (smaller)

theorem closeGroup?_nil (top : Float) : closeGroup? [] top = none := rfl

/-- A group that holds a zone closes to a cluster of its zones. -/
theorem closeGroup?_cons (z : Zone) (rest : List Zone) (top : Float) :
    ∃ c, closeGroup? (z :: rest) top = some c ∧ c.members = z :: rest := by
  unfold closeGroup?
  obtain ⟨best, hbest⟩ : ∃ best, best? (z :: rest) = some best := ⟨_, rfl⟩
  obtain ⟨start, hstart⟩ : ∃ start, ((z :: rest).map (·.originTime)).min? = some start := ⟨_, rfl⟩
  rw [hbest, hstart]
  exact ⟨_, rfl, rfl⟩

/-- What a group is closed to. -/
theorem closeGroup?_eq_some {group : List Zone} {top : Float} {c : ZoneCluster}
    (h : closeGroup? group top = some c) :
    best? group = some c.representative ∧ c.members = group ∧
      (group.map (·.originTime)).min? = some c.startTime ∧
        c.min = group.foldl (fun low z => smaller low z.min) positiveInfinity ∧ c.max = top := by
  unfold closeGroup? at h
  cases hbest : best? group with
  | none => rw [hbest] at h; cases h
  | some best =>
    cases hstart : (group.map (·.originTime)).min? with
    | none => rw [hbest, hstart] at h; cases h
    | some start =>
      rw [hbest, hstart] at h
      cases h
      exact ⟨rfl, rfl, rfl, rfl, rfl⟩

theorem members_closeGroup? (group : List Zone) (top : Float) :
    (closeGroup? group top).toList.flatMap ZoneCluster.members = group := by
  cases group with
  | nil => rfl
  | cons z rest =>
    obtain ⟨c, hc, hm⟩ := closeGroup?_cons z rest top
    simp [hc, hm]

/-- The clusters of an open group and the zones behind it hold just these. -/
theorem members_sweep (rules : ClusterRules) (group : List Zone) (top : Float)
    (zones : List Zone) :
    (sweep rules group top zones).flatMap ZoneCluster.members = group ++ zones := by
  fun_induction sweep rules group top zones with
  | case1 group top => simpa using members_closeGroup? group top
  | case2 group top z rest _ ih => simpa using ih
  | case3 group top z rest _ ih => rw [List.flatMap_append, members_closeGroup?, ih]; rfl

/-- **Members.** One after the other, the members of the clusters are the zones by price. -/
theorem members_clustersOf (rules : ClusterRules) (zones : List Zone) :
    (clustersOf rules zones).flatMap ZoneCluster.members = sortByPrice zones :=
  members_sweep rules [] negativeInfinity (sortByPrice zones)

/-- Every cluster of a sweep is a group that was closed. -/
theorem exists_closeGroup? {rules : ClusterRules} {group : List Zone} {top : Float}
    {zones : List Zone} {c : ZoneCluster} (h : c ∈ sweep rules group top zones) :
    ∃ closed high, closeGroup? closed high = some c := by
  fun_induction sweep rules group top zones with
  | case1 group top => exact ⟨group, top, Option.mem_toList.mp h⟩
  | case2 group top z rest _ ih => exact ih h
  | case3 group top z rest _ ih =>
    rcases List.mem_append.mp h with h | h
    · exact ⟨group, top, Option.mem_toList.mp h⟩
    · exact ih h

/-- The representative of a cluster is one of its members. -/
theorem representative_mem {rules : ClusterRules} {zones : List Zone} {c : ZoneCluster}
    (h : c ∈ clustersOf rules zones) : c.representative ∈ c.members := by
  obtain ⟨closed, high, hclosed⟩ := exists_closeGroup? h
  obtain ⟨hbest, rfl, -⟩ := closeGroup?_eq_some hclosed
  exact mem_of_best? hbest

/-- Clusters that share no id among their members have distinct ids. -/
theorem nodup_ids_of_members {clusters : List ZoneCluster}
    (hrep : ∀ c ∈ clusters, c.representative ∈ c.members)
    (hid : ((clusters.flatMap ZoneCluster.members).map Zone.id).Nodup) :
    (clusters.map ZoneCluster.id).Nodup := by
  induction clusters with
  | nil => exact List.nodup_nil
  | cons c rest ih =>
    rw [List.flatMap_cons, List.map_append, List.nodup_append] at hid
    obtain ⟨-, hrest, hdisjoint⟩ := hid
    rw [List.map_cons, List.nodup_cons]
    refine ⟨?_, ih (fun d hd => hrep d (List.mem_cons_of_mem c hd)) hrest⟩
    intro hmem
    obtain ⟨d, hd, hdc⟩ := List.mem_map.mp hmem
    have hc : c.id ∈ c.members.map Zone.id :=
      List.mem_map_of_mem (hrep c List.mem_cons_self)
    have hd' : d.id ∈ (rest.flatMap ZoneCluster.members).map Zone.id :=
      List.mem_map_of_mem (List.mem_flatMap.mpr ⟨d, hd, hrep d (List.mem_cons_of_mem c hd)⟩)
    exact hdisjoint _ hc _ hd' hdc.symm

/-- **Names.** Zones with distinct ids give clusters with distinct ids. -/
theorem nodup_ids_clustersOf (rules : ClusterRules) {zones : List Zone}
    (hid : (zones.map Zone.id).Nodup) : ((clustersOf rules zones).map ZoneCluster.id).Nodup := by
  apply nodup_ids_of_members fun c hc => representative_mem hc
  rw [members_clustersOf]
  exact ((sortByPrice_perm zones).map Zone.id).nodup_iff.mpr hid

end ChartLayer
