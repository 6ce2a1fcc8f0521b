import ChartLayer.Proofs.Zone.Order
import Mathlib.Data.List.Perm.Subperm

/-!
# The nearest zones

`nearestOrder` is a total order in which only zones of one id tie. A view keeps the first few zones
of a side in that order. Which these are can be said without sorting: a zone is among the first `k`
just if fewer than `k` zones of the side come before it (`mem_take_sortByNearest`), and it is the
first one just if it comes before all others (`isNearest_iff`).
-/

namespace ChartLayer

variable {reference : Float} {side others : List Zone} {z : Zone}

/-! ## The order of distances -/

instance (reference : Float) : Std.TransCmp (nearestOrder reference) :=
  inferInstanceAs (Std.TransCmp
    (compareLex (compareOn fun z : Zone => orderKey (z.distanceFrom reference))
      (compareOn Zone.id)))

theorem id_eq_of_nearestOrder_eq {a b : Zone} (h : nearestOrder reference a b = .eq) :
    a.id = b.id := by
  unfold nearestOrder at h
  exact Std.LawfulEqOrd.eq_of_compare (Ordering.then_eq_eq.mp h).2

theorem sortByNearest_perm (reference : Float) (zones : List Zone) :
    (sortByNearest reference zones).Perm zones := List.mergeSort_perm zones _

/-- Zones with distinct ids do not tie, so their order is strict. -/
theorem sortByNearest_pairwise (hid : (side.map Zone.id).Nodup) :
    (sortByNearest reference side).Pairwise fun a b => nearestOrder reference a b = .lt := by
  have hsorted : (sortByNearest reference side).Pairwise fun a b =>
      (nearestOrder reference a b).isLE = true := Sorted.mergeSort_pairwise side
  have hdistinct : ((sortByNearest reference side).map Zone.id).Nodup :=
    ((sortByNearest_perm reference side).map Zone.id).nodup_iff.mpr hid
  refine (hsorted.and (List.pairwise_map.mp hdistinct)).imp ?_
  rintro a b ⟨hle, hne⟩
  exact (Ordering.isLE_iff_eq_lt_or_eq_eq.mp hle).resolve_right
    fun heq => hne (id_eq_of_nearestOrder_eq heq)

/-! ## The first few -/

/-- How many zones of a side come before a zone, the nearest first. -/
def countNearer (reference : Float) (side : List Zone) (z : Zone) : Nat :=
  side.countP fun y => nearestOrder reference y z = .lt

theorem mem_take_sortByNearest (hid : (side.map Zone.id).Nodup) {k : Nat} :
    z ∈ (sortByNearest reference side).take k ↔ z ∈ side ∧ countNearer reference side z < k := by
  have hperm := sortByNearest_perm reference side
  rw [Sorted.mem_take_iff (sortByNearest_pairwise hid), hperm.mem_iff, hperm.countP_eq]
  rfl

/-- A zone of a side that is among its first ones, up to a limit if there is one. -/
def AmongFirst (limit : Option Nat) (reference : Float) (side : List Zone) (z : Zone) : Prop :=
  z ∈ side ∧ ∀ k ∈ limit, countNearer reference side z < k

/-- With fewer zones beside it, a zone is still among the first ones. -/
theorem AmongFirst.of_subperm {limit : Option Nat} (h : AmongFirst limit reference side z)
    (hsub : others.Subperm side) (hz : z ∈ others) : AmongFirst limit reference others z :=
  ⟨hz, fun k hk => Nat.lt_of_le_of_lt (hsub.countP_le _) (h.2 k hk)⟩

/-- A higher limit lets no fewer zones through. -/
theorem AmongFirst.mono {limit higher : Option Nat} (h : AmongFirst limit reference side z)
    (hle : ∀ m ∈ higher, ∃ k ∈ limit, k ≤ m) : AmongFirst higher reference side z := by
  refine ⟨h.1, fun m hm => ?_⟩
  obtain ⟨k, hk, hkm⟩ := hle m hm
  exact Nat.lt_of_lt_of_le (h.2 k hk) hkm

/-- A zone that comes before one of the first is one of them. -/
theorem AmongFirst.of_nearer {limit : Option Nat} {y : Zone}
    (h : AmongFirst limit reference side z) (hy : y ∈ side)
    (hlt : nearestOrder reference y z = .lt) : AmongFirst limit reference side y := by
  refine ⟨hy, fun k hk => Nat.lt_of_le_of_lt ?_ (h.2 k hk)⟩
  apply List.countP_mono_left
  intro x _ hx
  simp only [decide_eq_true_eq] at hx ⊢
  exact Std.TransCmp.lt_trans hx hlt

/-! ## The nearest one -/

/-- The first zone of a side: no zone of the side comes before it. -/
def IsNearest (reference : Float) (side : List Zone) (z : Zone) : Prop :=
  z ∈ side ∧ ∀ y ∈ side, (nearestOrder reference z y).isLE = true

theorem isNearest_iff : IsNearest reference side z ↔ AmongFirst (some 1) reference side z := by
  refine and_congr_right fun _ => ?_
  have hzero : countNearer reference side z = 0 ↔
      ∀ y ∈ side, (nearestOrder reference z y).isLE = true := by
    rw [countNearer, List.countP_eq_zero]
    refine forall₂_congr fun y _ => ?_
    rw [decide_eq_true_eq, ← Std.OrientedCmp.gt_iff_lt, Ordering.isLE_iff_ne_gt]
  rw [← hzero]
  simp

/-- A side that is not empty has one nearest zone. -/
theorem existsUnique_isNearest (hid : (side.map Zone.id).Nodup) (hne : side ≠ []) :
    ∃! z, IsNearest reference side z := by
  have hperm := sortByNearest_perm reference side
  cases hsorted : sortByNearest reference side with
  | nil =>
    rw [hsorted] at hperm
    exact absurd hperm.symm.eq_nil hne
  | cons first rest =>
    have hfirst : AmongFirst (some 1) reference side first := by
      have htake : first ∈ (sortByNearest reference side).take 1 := by rw [hsorted]; simp
      obtain ⟨hmem, hlt⟩ := (mem_take_sortByNearest hid).mp htake
      exact ⟨hmem, fun k hk => Option.mem_some.mp hk ▸ hlt⟩
    refine ⟨first, isNearest_iff.mpr hfirst, ?_⟩
    rintro y ⟨hy, hle⟩
    have hback := (isNearest_iff.mpr hfirst).2 y hy
    exact List.inj_on_of_nodup_map hid hy hfirst.1
      (id_eq_of_nearestOrder_eq (Std.OrientedCmp.isLE_antisymm (hle first hfirst.1) hback))

end ChartLayer
