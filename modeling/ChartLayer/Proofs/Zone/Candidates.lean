import ChartLayer.Proofs.Zone.Order

/-!
# The best candidate

`candidateOrder` is a total order, so that keeping the better one of two again and again ends with
a zone that none comes before (`foldl_choice_isLE`). The best of some zones is such a zone
(`isLE_of_best?`).
-/

namespace ChartLayer

/-! ## The order of candidates -/

/-- A missing value has the lowest key. -/
theorem largestFirst_eq (x y : Option Float) :
    largestFirst x y = compare (y.map orderKey) (x.map orderKey) := by
  cases x <;> cases y <;> rfl

/-- Key after key; the keys of which the larger one comes first are compared the other way. -/
theorem candidateOrder_eq : candidateOrder =
    compareLex (fun a b => compareOn (fun z : Zone => z.state.freshness) b a)
      (compareLex (fun a b => compareOn (fun z : Zone => z.role.rank) b a)
        (compareLex (fun a b => compareOn (fun z : Zone => z.strength.map orderKey) b a)
          (compareLex (fun a b => compareOn (fun z : Zone => z.confidence.map orderKey) b a)
            (compareLex (fun a b => compareOn (fun z : Zone => orderKey z.score) b a)
              (compareLex (compareOn widthKey) (compareOn Zone.id)))))) := by
  funext a b
  simp only [candidateOrder, largestFirst_eq, totalOrder, compareLex, compareOn]

instance : Std.TransCmp candidateOrder := candidateOrder_eq ▸ inferInstance

/-! ## The best of a list -/

/-- Choosing what comes before two of a list, again and again, ends with what comes before all. -/
theorem foldl_choice_isLE {α : Type} {cmp : α → α → Ordering} [Std.TransCmp cmp]
    {choose : α → α → α}
    (hchoose : ∀ a b, (cmp (choose a b) a).isLE = true ∧ (cmp (choose a b) b).isLE = true)
    (first : α) (rest : List α) :
    ∀ y ∈ first :: rest, (cmp (rest.foldl choose first) y).isLE = true := by
  induction rest generalizing first with
  | nil =>
    intro y hy
    rw [List.mem_singleton.mp hy]
    exact Std.ReflCmp.isLE_rfl
  | cons next rest ih =>
    obtain ⟨hfirst, hnext⟩ := hchoose first next
    have hchosen := ih (choose first next) _ List.mem_cons_self
    intro y hy
    rcases List.mem_cons.mp hy with rfl | hy
    · exact Std.TransCmp.isLE_trans hchosen hfirst
    · rcases List.mem_cons.mp hy with rfl | hy
      · exact Std.TransCmp.isLE_trans hchosen hnext
      · exact ih (choose first next) y (List.mem_cons_of_mem _ hy)

/-- No zone comes before the best of some zones. -/
theorem isLE_of_best? {zones : List Zone} {z : Zone} (h : best? zones = some z) :
    ∀ y ∈ zones, (candidateOrder z y).isLE = true := by
  cases zones with
  | nil => cases h
  | cons first rest =>
    simp only [best?, Option.some.injEq] at h
    rw [← h]
    apply foldl_choice_isLE
    intro a b
    split
    · next hgt => exact ⟨Std.OrientedCmp.isLE_of_isGE (by rw [hgt]; rfl), Std.ReflCmp.isLE_rfl⟩
    · next hle => exact ⟨Std.ReflCmp.isLE_rfl, Ordering.isLE_iff_ne_gt.mpr hle⟩

end ChartLayer
