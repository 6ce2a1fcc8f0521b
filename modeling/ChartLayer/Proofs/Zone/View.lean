import ChartLayer.Proofs.Zone.Order
import ChartLayer.Zone.View
import Mathlib.Data.List.Perm.Subperm

/-!
# What a view shows

A view shows some of the zones, each at most once (`refine_subperm`), from low to high
(`refine_pairwise`). So of zones with distinct ids it shows as much as its members say: a view that
shows no other zones than a second one shows a part of the second (`refine_sublist`), and narrowing
twice is narrowing once if the second time nothing is lost (`refine_refine`).
-/

namespace ChartLayer

variable {focus other : ViewFocus} {zones others : List Zone}

/-! ## Each zone at most once -/

theorem refineHighView_subperm (focus : ViewFocus) (zones : List Zone) :
    (refineHighView focus zones).Subperm zones := by
  unfold refineHighView
  have hsplit := List.filter_append_perm (fun z : Zone => focus.view.secs ≤ z.timeframe.secs) zones
  exact ((List.Sublist.append_left List.filter_sublist _).subperm).trans hsplit.subperm

theorem refineMicroView_subperm (focus : ViewFocus) (zones : List Zone) :
    (refineMicroView focus zones).Subperm zones := by
  unfold refineMicroView
  exact (List.filter_sublist.trans List.filter_sublist).subperm

theorem refine_subperm (focus : ViewFocus) (zones : List Zone) :
    (refine focus zones).Subperm zones := by
  unfold refine
  refine (sortByPrice_perm _).subperm.trans ?_
  split
  · exact refineHighView_subperm focus zones
  · split
    · exact refineMicroView_subperm focus zones
    · exact List.Subperm.refl zones

theorem nodup_ids_refine (focus : ViewFocus) (hid : (zones.map Zone.id).Nodup) :
    ((refine focus zones).map Zone.id).Nodup := by
  obtain ⟨kept, hperm, hsub⟩ := refine_subperm focus zones
  exact (hperm.map Zone.id).nodup_iff.mp ((hsub.map Zone.id).nodup hid)

/-- The zones of a list are told by their ids. -/
theorem contains_ids_iff {kept : List Zone} (hid : (zones.map Zone.id).Nodup)
    (hkept : ∀ y ∈ kept, y ∈ zones) {z : Zone} (hz : z ∈ zones) :
    (kept.map Zone.id).contains z.id = true ↔ z ∈ kept := by
  rw [List.contains_iff_mem]
  constructor
  · intro h
    obtain ⟨y, hy, hyz⟩ := List.mem_map.mp h
    exact List.inj_on_of_nodup_map hid (hkept y hy) hz hyz ▸ hy
  · exact List.mem_map_of_mem

/-! ## From low to high -/

theorem refine_pairwise (focus : ViewFocus) (zones : List Zone) :
    (refine focus zones).Pairwise fun a b => (priceOrder a b).isLE := sortByPrice_pairwise _

/-- Lists from low to high keep their order in each other. -/
theorem sublist_of_ascending (hid : (zones.map Zone.id).Nodup)
    (hzones : zones.Pairwise fun a b => (priceOrder a b).isLE)
    (hothers : others.Pairwise fun a b => (priceOrder a b).isLE) (hsub : zones ⊆ others) :
    zones.Sublist others := by
  obtain ⟨kept, hperm, hkept⟩ := List.subperm_of_subset hid.of_map hsub
  have heq : zones = kept := by
    refine hperm.symm.eq_of_pairwise ?_ hzones (hothers.sublist hkept)
    intro a b ha hb hab hba
    exact List.inj_on_of_nodup_map hid ha (hperm.mem_iff.mp hb) (id_eq_of_isLE hab hba)
  exact heq ▸ hkept

/-- **Less.** What shows no other zones shows a part. -/
theorem refine_sublist (hid : (zones.map Zone.id).Nodup)
    (h : refine focus zones ⊆ refine other others) :
    (refine focus zones).Sublist (refine other others) :=
  sublist_of_ascending (nodup_ids_refine focus hid) (refine_pairwise focus zones)
    (refine_pairwise other others) h

/-- **Again.** Narrowed zones stay as they are if the view shows them all again. -/
theorem refine_refine (hid : (zones.map Zone.id).Nodup)
    (h : refine focus zones ⊆ refine focus (refine focus zones)) :
    refine focus (refine focus zones) = refine focus zones :=
  (refine_sublist (nodup_ids_refine focus hid) (refine_subperm focus _).subset).antisymm
    (refine_sublist hid h)

/-! ## A sample -/

/-- A common timeframe. -/
def quarterHour : Timeframe := ⟨900, by decide⟩

/-- A point of interest of a quarter of an hour. -/
def plainZone (id : String) (low high : Float) : Zone where
  id := id
  min := low
  max := high
  direction := .neutral
  kind := .orderBlock
  role := .pointOfInterest
  state := .fresh
  score := 0.0
  timeframe := quarterHour
  originTime := 0

end ChartLayer
