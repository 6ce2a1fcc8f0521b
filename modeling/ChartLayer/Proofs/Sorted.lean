import Mathlib.Data.List.Basic

/-!
# Lists sorted by a comparison

The orders of this library are comparisons with three outcomes. What they sort is in order
(`mergeSort_pairwise`), and where nothing ties, that is one list whatever order it was in before
(`mergeSort_eq_of_perm`), of which the first few elements can be told without sorting
(`mem_take_iff`). What comes up to some element stands first (`filter_append_filter_not`), and is
sorted by itself as it is among the rest (`filter_mergeSort`). What ties keeps its order
(`filter_mergeSort_of_tied`).
-/

namespace ChartLayer.Sorted

variable {α : Type} {cmp : α → α → Ordering} [Std.TransCmp cmp]

theorem mergeSort_pairwise (l : List α) :
    (l.mergeSort fun a b => (cmp a b).isLE).Pairwise fun a b => (cmp a b).isLE = true := by
  apply List.pairwise_mergeSort
  · exact fun a b c => Std.TransCmp.isLE_trans
  · intro a b
    have hswap : (cmp a b).isGE ↔ (cmp b a).isLE := Std.OrientedCmp.isGE_iff_isLE
    rw [Bool.or_eq_true, ← hswap]
    cases cmp a b <;> decide

/-- Where nothing ties, a list has one sorted form, whatever order it comes in. -/
theorem mergeSort_eq_of_perm {l l' : List α} (h : l.Perm l')
    (hties : ∀ a ∈ l, ∀ b ∈ l, cmp a b = .eq → a = b) :
    (l.mergeSort fun a b => (cmp a b).isLE) = l'.mergeSort fun a b => (cmp a b).isLE := by
  have hperm : (l.mergeSort fun a b => (cmp a b).isLE).Perm
      (l'.mergeSort fun a b => (cmp a b).isLE) :=
    (List.mergeSort_perm l _).trans (h.trans (List.mergeSort_perm l' _).symm)
  refine hperm.eq_of_pairwise ?_ (mergeSort_pairwise l) (mergeSort_pairwise l')
  intro a b ha hb hab hba
  rw [List.mem_mergeSort] at ha hb
  exact hties a ha b (h.mem_iff.mpr hb) (Std.OrientedCmp.isLE_antisymm hab hba)

/-- Where nothing ties, some of the elements are sorted by themselves as they are among all. -/
theorem filter_mergeSort {l : List α} (hties : ∀ a ∈ l, ∀ b ∈ l, cmp a b = .eq → a = b)
    (p : α → Bool) :
    (l.mergeSort fun a b => (cmp a b).isLE).filter p =
      (l.filter p).mergeSort fun a b => (cmp a b).isLE := by
  have hperm : ((l.mergeSort fun a b => (cmp a b).isLE).filter p).Perm
      ((l.filter p).mergeSort fun a b => (cmp a b).isLE) :=
    ((List.mergeSort_perm l _).filter p).trans (List.mergeSort_perm (l.filter p) _).symm
  refine hperm.eq_of_pairwise ?_ ((mergeSort_pairwise l).filter p) (mergeSort_pairwise _)
  intro a b ha hb hab hba
  have ha : a ∈ l := List.mem_mergeSort.mp (List.mem_of_mem_filter ha)
  have hb : b ∈ l := List.mem_of_mem_filter (List.mem_mergeSort.mp hb)
  exact hties a ha b hb (Std.OrientedCmp.isLE_antisymm hab hba)

omit [Std.TransCmp cmp] in
/-- Sorting is stable: elements that all tie stay in the order in which they were. -/
theorem filter_mergeSort_of_tied {le : α → α → Bool}
    (htrans : ∀ a b c, le a b = true → le b c = true → le a c = true)
    (htotal : ∀ a b, (le a b || le b a) = true) {p : α → Bool}
    (htied : ∀ a b, p a = true → p b = true → le a b = true) (l : List α) :
    (l.mergeSort le).filter p = l.filter p := by
  have hpairwise : (l.filter p).Pairwise fun a b => le a b = true := by
    rw [List.pairwise_filter]
    exact List.pairwise_of_forall htied
  have hsub : (l.filter p).Sublist (l.mergeSort le) :=
    List.sublist_mergeSort htrans htotal hpairwise List.filter_sublist
  have hsub : (l.filter p).Sublist ((l.mergeSort le).filter p) := by
    simpa only [List.filter_filter, Bool.and_self] using hsub.filter p
  exact (hsub.eq_of_length ((List.mergeSort_perm l le).filter p).length_eq.symm).symm

omit [Std.TransCmp cmp] in
/-- Where `p` holds of all before an element it holds of, the elements it holds of stand first. -/
theorem filter_append_filter_not {p : α → Bool} {l : List α}
    (h : l.Pairwise fun a b => p b = true → p a = true) :
    l.filter p ++ l.filter (fun a => !p a) = l := by
  induction l with
  | nil => rfl
  | cons first rest ih =>
    obtain ⟨hfirst, hrest⟩ := List.pairwise_cons.mp h
    cases hp : p first with
    | true => simp [hp, ih hrest]
    | false =>
      have hnone : ∀ a ∈ rest, p a = false := by
        intro a ha
        rw [Bool.eq_false_iff]
        intro hpa
        rw [hfirst a ha hpa] at hp
        cases hp
      have hfilter : rest.filter p = [] := by simpa using hnone
      have hall : rest.filter (fun a => !p a) = rest := by simpa using hnone
      simp [hp, hfilter, hall]

omit [Std.TransCmp cmp] in
/-- Where `p` holds of all before an element it holds of, it holds of as many as it holds of
first. -/
theorem lt_countP_iff {p : α → Bool} {l : List α}
    (h : l.Pairwise fun a b => p b = true → p a = true) {i : Nat} (hi : i < l.length) :
    i < l.countP p ↔ p l[i] = true := by
  have hget : (l.filter p ++ l.filter fun a => !p a)[i]? = some l[i] := by
    rw [filter_append_filter_not h, List.getElem?_eq_getElem hi]
  rw [List.countP_eq_length_filter]
  rw [List.getElem?_append] at hget
  split at hget
  · next hlt => exact iff_of_true hlt (List.mem_filter.mp (List.mem_of_getElem? hget)).2
  · next hge =>
    have hnot := (List.mem_filter.mp (List.mem_of_getElem? hget)).2
    rw [Bool.not_eq_true'] at hnot
    exact iff_of_false hge (by rw [hnot]; exact Bool.false_ne_true)

/-- In strict order an element is among the first `k` just if fewer than `k` come before it. -/
theorem mem_take_iff {l : List α} (h : l.Pairwise fun a b => cmp a b = .lt) {a : α} {k : Nat} :
    a ∈ l.take k ↔ a ∈ l ∧ l.countP (fun b => cmp b a = .lt) < k := by
  induction l generalizing k with
  | nil => simp
  | cons first rest ih =>
    obtain ⟨hfirst, hrest⟩ := List.pairwise_cons.mp h
    cases k with
    | zero => simp
    | succ k =>
      rw [List.take_succ_cons, List.mem_cons, List.mem_cons, ih hrest, List.countP_cons]
      constructor
      · rintro (rfl | ⟨hmem, hlt⟩)
        · -- Nothing comes before the first one.
          have hnone : rest.countP (fun b => cmp b a = .lt) = 0 := by
            rw [List.countP_eq_zero]
            intro b hb
            simp [Std.OrientedCmp.gt_of_lt (hfirst b hb)]
          simp [hnone, Std.ReflCmp.compare_self]
        · refine ⟨Or.inr hmem, ?_⟩
          split <;> omega
      · rintro ⟨rfl | hmem, hlt⟩
        · exact Or.inl rfl
        · rw [if_pos (by simpa using hfirst a hmem)] at hlt
          exact Or.inr ⟨hmem, by omega⟩

end ChartLayer.Sorted
