import ChartLayer.Proofs.Label.Precedence
import ChartLayer.Proofs.Zone.Candidates
import ChartLayer.Proofs.Zone.Nearest

/-!
# Orders to sort by

A list can be sorted by a comparison only if the comparison is a total preorder: two elements are in
order one way or the other, and what is in order stays so through a third. Zones and labels are
compared key after key. Each key is a place among numbers, texts or all doubles, NaN, infinities and
both zeros included, some of them from high to low, and a missing value is a key of its own; so each
comparison is a total preorder whatever the keys are. The last key is an id, so only what shares its
id ties.

* `isTotalPreorder`: what the library's `TransCmp` says of a comparison.
* `orders_total`: the orders of doubles, zones and labels.
-/

namespace ChartLayer

/-- A comparison that a list can be sorted by. -/
structure IsTotalPreorder {α : Type} (cmp : α → α → Ordering) : Prop where
  total : ∀ a b, (cmp a b).isLE = true ∨ (cmp b a).isLE = true
  antisymm : ∀ a b, (cmp a b).isLE = true → (cmp b a).isLE = true → cmp a b = .eq
  trans : ∀ a b c, (cmp a b).isLE = true → (cmp b c).isLE = true → (cmp a c).isLE = true
  swap : ∀ a b, cmp b a = (cmp a b).swap

theorem isTotalPreorder {α : Type} (cmp : α → α → Ordering) [Std.TransCmp cmp] :
    IsTotalPreorder cmp where
  total a b := by
    cases h : cmp a b with
    | gt => exact Or.inr (by rw [Std.OrientedCmp.lt_of_gt h]; rfl)
    | lt => exact Or.inl rfl
    | eq => exact Or.inl rfl
  antisymm _ _ := Std.OrientedCmp.isLE_antisymm
  trans _ _ _ := Std.TransCmp.isLE_trans
  swap _ _ := Std.OrientedCmp.eq_swap

theorem id_eq_of_candidateOrder_eq {a b : Zone} (h : candidateOrder a b = .eq) : a.id = b.id := by
  unfold candidateOrder at h
  simp only [Ordering.then_eq_eq] at h
  exact Std.LawfulEqOrd.eq_of_compare h.2.2.2.2.2.2

/-- Labels that tie hang at the same price. -/
theorem Labels.anchor_eq_of_tie {a b : LabelRequest Float} (h : importanceOrder a b = .eq) :
    a.anchor = b.anchor := by
  unfold importanceOrder at h
  simp only [Ordering.then_eq_eq] at h
  exact (Std.LawfulEqCmp.eq_of_compare h.2.2.1).symm

/-- **Total preorders.** Doubles are in one order, in which no two patterns tie. The orders of
zones, by merit, by price and by the distance from any price, and the order in which labels have
their turns are total preorders over all values; zones tie only with one id, and labels only with
one id and at one price. -/
theorem orders_total :
    (IsTotalPreorder totalOrder ∧ ∀ x y, totalOrder x y = .eq ↔ x.toBits = y.toBits) ∧
    (IsTotalPreorder candidateOrder ∧ ∀ a b, candidateOrder a b = .eq → a.id = b.id) ∧
    (IsTotalPreorder priceOrder ∧ ∀ a b, priceOrder a b = .eq → a.id = b.id) ∧
    (∀ reference, IsTotalPreorder (nearestOrder reference) ∧
      ∀ a b, nearestOrder reference a b = .eq → a.id = b.id) ∧
    (IsTotalPreorder fun a b : LabelRequest Float × Float => Labels.importanceOrder a.1 b.1) ∧
    ∀ a b : LabelRequest Float × Float, Labels.importanceOrder a.1 b.1 = .eq →
      a.1.id = b.1.id ∧ a.1.anchor.toBits = b.1.anchor.toBits := by
  refine ⟨⟨isTotalPreorder _, fun x y => ?_⟩, ⟨isTotalPreorder _, fun _ _ => id_eq_of_candidateOrder_eq⟩,
    ⟨isTotalPreorder _, fun _ _ => id_eq_of_priceOrder_eq⟩,
    fun reference => ⟨isTotalPreorder _, fun _ _ => id_eq_of_nearestOrder_eq⟩,
    isTotalPreorder _, fun a b htie => ⟨Labels.id_eq_of_tie htie, ?_⟩⟩
  · exact totalOrder_eq_iff.trans toBits_inj.symm
  · rw [Labels.anchor_eq_of_tie htie]

end ChartLayer
