import ChartLayer.Proofs.Number.TotalOrder
import ChartLayer.Proofs.Sorted
import ChartLayer.Zone.Order
import Mathlib.Data.List.Nodup
import Mathlib.Tactic.Tauto

/-!
# Sorting zones by price

`priceOrder` is a total order in which only zones of one id tie, so a list of zones with distinct
ids has one sorted form, whatever order it comes in (`sortByPrice_eq_of_perm`).
-/

namespace ChartLayer

/-! ## Choosing from a list -/

/-- Choosing one of two again and again ends with one of all. -/
theorem foldl_choice_mem {α : Type} {choose : α → α → α}
    (hchoose : ∀ a b, choose a b = a ∨ choose a b = b) (first : α) (rest : List α) :
    rest.foldl choose first ∈ first :: rest := by
  induction rest generalizing first with
  | nil => simp
  | cons next rest ih =>
    have h := ih (choose first next)
    rw [List.foldl_cons]
    rcases hchoose first next with hc | hc <;> rw [hc] at h ⊢ <;> simp at h ⊢ <;> tauto

/-- The best of some zones is one of them. -/
theorem mem_of_best? {zones : List Zone} {z : Zone} (h : best? zones = some z) : z ∈ zones := by
  cases zones with
  | nil => cases h
  | cons first rest =>
    simp only [best?, Option.some.injEq] at h
    rw [← h]
    apply foldl_choice_mem
    intro a b
    split
    · exact Or.inr rfl
    · exact Or.inl rfl

/-! ## The order of prices -/

instance : Std.TransCmp priceOrder :=
  inferInstanceAs (Std.TransCmp
    (compareLex (compareOn fun z : Zone => orderKey z.min)
      (compareLex (compareOn fun z : Zone => orderKey z.max) (compareOn Zone.id))))

theorem id_eq_of_priceOrder_eq {a b : Zone} (h : priceOrder a b = .eq) : a.id = b.id := by
  unfold priceOrder at h
  exact Std.LawfulEqOrd.eq_of_compare (Ordering.then_eq_eq.mp (Ordering.then_eq_eq.mp h).2).2

/-- Two zones that come before each other have one id. -/
theorem id_eq_of_isLE {a b : Zone} (hab : (priceOrder a b).isLE) (hba : (priceOrder b a).isLE) :
    a.id = b.id :=
  id_eq_of_priceOrder_eq (Std.OrientedCmp.isLE_antisymm hab hba)

theorem sortByPrice_perm (zones : List Zone) : (sortByPrice zones).Perm zones :=
  List.mergeSort_perm zones _

@[simp] theorem mem_sortByPrice {zones : List Zone} {z : Zone} :
    z ∈ sortByPrice zones ↔ z ∈ zones := (sortByPrice_perm zones).mem_iff

theorem sortByPrice_pairwise (zones : List Zone) :
    (sortByPrice zones).Pairwise fun a b => (priceOrder a b).isLE :=
  Sorted.mergeSort_pairwise zones

/-- With distinct ids the sorted list does not depend on the order of the list. -/
theorem sortByPrice_eq_of_perm {zones others : List Zone} (hp : zones.Perm others)
    (hid : (zones.map Zone.id).Nodup) : sortByPrice zones = sortByPrice others :=
  Sorted.mergeSort_eq_of_perm hp fun _ ha _ hb htie =>
    List.inj_on_of_nodup_map hid ha hb (id_eq_of_priceOrder_eq htie)

end ChartLayer
