import ChartLayer.Proofs.Zone.Order
import ChartLayer.Zone.Selection
import Mathlib.Data.List.Induction

/-!
# One zone for each identity

`uniqueById` keeps the best zone of each identity and lists the kept ones by price.

* `getElem?_bestById`: what is kept of an identity is the survivor of the zones that carry it.
* `uniqueById_of_listing`: the kept zones may be listed in any order before they are sorted.
* `nodup_uniqueById`, `mem_ids_uniqueById`: each identity delivered is there, once.
* `uniqueById_eq_sortByPrice`: of zones with distinct ids nothing is dropped.
-/

namespace ChartLayer

theorem better_eq_or (first second : Zone) :
    better first second = first ∨ better first second = second := by
  unfold better; split
  · exact Or.inr rfl
  · exact Or.inl rfl

/-- The zone that stands for a list of zones with one identity. -/
def survivor? : List Zone → Option Zone
  | [] => none
  | z :: rest => some (rest.foldl better z)

theorem survivor?_append_singleton (zones : List Zone) (z : Zone) :
    survivor? (zones ++ [z]) = some (((survivor? zones).map (better · z)).getD z) := by
  cases zones with
  | nil => rfl
  | cons first rest => simp [survivor?]

theorem mem_of_survivor? {zones : List Zone} {z : Zone} (h : survivor? zones = some z) :
    z ∈ zones := by
  cases zones with
  | nil => cases h
  | cons first rest =>
    simp only [survivor?, Option.some.injEq] at h
    exact h ▸ foldl_choice_mem better_eq_or first rest

/-! ## The map of the best -/

/-- What one more zone does to the map. -/
theorem bestById_append_singleton (zones : List Zone) (z : Zone) :
    bestById (zones ++ [z]) = (bestById zones).insert z.id
      (((bestById zones)[z.id]?.map (better · z)).getD z) := by
  unfold bestById
  rw [List.foldl_append, List.foldl_cons, List.foldl_nil]
  split <;> rename_i h <;> rw [h] <;> rfl

/-- **One identity.** The zone kept of an identity is the survivor of those that carry it. -/
theorem getElem?_bestById (zones : List Zone) (id : String) :
    (bestById zones)[id]? = survivor? (zones.filter fun z => z.id = id) := by
  induction zones using List.reverseRecOn with
  | nil => simp [bestById, survivor?]
  | append_singleton zones z ih =>
    rw [bestById_append_singleton, List.filter_append, Std.ExtTreeMap.getElem?_insert]
    by_cases h : z.id = id
    · subst h
      simp [ih, survivor?_append_singleton]
    · simp [h, ih]

theorem bestById_eq_some {zones : List Zone} {id : String} {z : Zone}
    (h : (bestById zones)[id]? = some z) : z ∈ zones ∧ z.id = id := by
  rw [getElem?_bestById] at h
  simpa using mem_of_survivor? h

theorem bestById_eq_none {zones : List Zone} {id : String} :
    (bestById zones)[id]? = none ↔ ∀ z ∈ zones, z.id ≠ id := by
  rw [getElem?_bestById]
  cases hf : zones.filter (fun z => z.id = id) with
  | nil => simpa [survivor?, List.filter_eq_nil_iff] using hf
  | cons first rest =>
    have hmem : first ∈ zones.filter fun z => z.id = id := by simp [hf]
    have hm : first ∈ zones ∧ first.id = id := by simpa using hmem
    simp only [survivor?, reduceCtorEq, false_iff]
    exact fun h => h first hm.1 hm.2

/-! ## The list of the best -/

/-- The zones kept, in the order of their ids. -/
def keptZones (zones : List Zone) : List Zone := (bestById zones).toList.map (·.2)

theorem mem_keptZones {zones : List Zone} {z : Zone} :
    z ∈ keptZones zones ↔ (bestById zones)[z.id]? = some z := by
  unfold keptZones
  simp only [List.mem_map, Prod.exists, exists_eq_right, Std.ExtTreeMap.mem_toList_iff_getElem?_eq_some]
  constructor
  · rintro ⟨id, h⟩
    rwa [(bestById_eq_some h).2]
  · exact fun h => ⟨z.id, h⟩

theorem ids_keptZones (zones : List Zone) : (keptZones zones).map Zone.id = (bestById zones).keys := by
  unfold keptZones
  rw [List.map_map, ← Std.ExtTreeMap.map_fst_toList_eq_keys]
  apply List.map_congr_left
  rintro ⟨id, z⟩ h
  rw [Std.ExtTreeMap.mem_toList_iff_getElem?_eq_some] at h
  exact (bestById_eq_some h).2

theorem nodup_ids_keptZones (zones : List Zone) : ((keptZones zones).map Zone.id).Nodup := by
  rw [ids_keptZones]
  exact Std.ExtTreeMap.nodup_keys

/-- Sorting makes the order in which the map lists its zones irrelevant. -/
theorem uniqueById_of_listing {zones listing : List Zone} (h : (keptZones zones).Perm listing) :
    uniqueById zones = sortByPrice listing :=
  sortByPrice_eq_of_perm h (nodup_ids_keptZones zones)

theorem uniqueById_perm_keptZones (zones : List Zone) :
    (uniqueById zones).Perm (keptZones zones) := sortByPrice_perm _

theorem nodup_uniqueById (zones : List Zone) : ((uniqueById zones).map Zone.id).Nodup :=
  ((uniqueById_perm_keptZones zones).map Zone.id).nodup_iff.mpr (nodup_ids_keptZones zones)

theorem mem_of_mem_uniqueById {zones : List Zone} {z : Zone} (h : z ∈ uniqueById zones) :
    z ∈ zones := by
  rw [(uniqueById_perm_keptZones zones).mem_iff, mem_keptZones] at h
  exact (bestById_eq_some h).1

/-- An identity is among the kept ones as soon as one zone carries it. -/
theorem mem_ids_uniqueById {zones : List Zone} {id : String} :
    id ∈ (uniqueById zones).map Zone.id ↔ ∃ z ∈ zones, z.id = id := by
  constructor
  · intro h
    obtain ⟨z, hz, rfl⟩ := List.mem_map.mp h
    exact ⟨z, mem_of_mem_uniqueById hz, rfl⟩
  · rintro ⟨z, hz, rfl⟩
    cases hb : (bestById zones)[z.id]? with
    | none => exact absurd rfl (bestById_eq_none.mp hb z hz)
    | some kept =>
      have hid := (bestById_eq_some hb).2
      refine List.mem_map.mpr ⟨kept, ?_, hid⟩
      rw [(uniqueById_perm_keptZones zones).mem_iff, mem_keptZones, hid, hb]

theorem keptZones_perm {zones : List Zone} (hid : (zones.map Zone.id).Nodup) :
    (keptZones zones).Perm zones := by
  rw [List.perm_ext_iff_of_nodup (nodup_ids_keptZones zones).of_map hid.of_map]
  intro z
  rw [mem_keptZones]
  constructor
  · exact fun h => (bestById_eq_some h).1
  · intro hz
    cases hb : (bestById zones)[z.id]? with
    | none => exact absurd rfl (bestById_eq_none.mp hb z hz)
    | some kept =>
      have hk := bestById_eq_some hb
      rw [List.inj_on_of_nodup_map hid hk.1 hz hk.2]

/-- **Nothing to drop.** Of zones with distinct ids all are kept. -/
theorem uniqueById_eq_sortByPrice {zones : List Zone} (hid : (zones.map Zone.id).Nodup) :
    uniqueById zones = sortByPrice zones := uniqueById_of_listing (keptZones_perm hid)

end ChartLayer
