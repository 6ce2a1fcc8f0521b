import ChartLayer.Proofs.Label.Identities
import ChartLayer.Proofs.Number.TotalOrder

/-!
# Labels in any order

Turns are a matter of order, but the order in which labels are asked for is not theirs. Labels that
tie in importance share their id and their price, so they ask for the same pixel, and a turn looks
at nothing else: they can differ in timeframes finer than their coarsest one
(`LabelRequest.coarsened`), which no turn looks at. So in whatever order the labels are asked for,
there is one layout of them, or none for one reason; and since a layout is sorted by place and id,
its lists are the same as well.

* `coarsened_eq_of_tie`: labels that tie.
* `foldl_place_eq_of_perm`: what the turns come to in another order.
* `layout_eq_of_perm`: the layout in another order.
* `layout_orderly`: the layout of a list of labels, and of all its reorderings.
-/

namespace ChartLayer

/-- A label with the coarsest of its timeframes only. -/
def LabelRequest.coarsened {α : Type} (item : LabelRequest α) : LabelRequest α :=
  { item with mask := if item.mask = 0 then 0 else 2 ^ item.mask.log2 }

theorem rankOfMask_coarsened {α : Type} (item : LabelRequest α) :
    rankOfMask item.coarsened.mask = rankOfMask item.mask := by
  unfold rankOfMask LabelRequest.coarsened
  by_cases h : item.mask = 0
  · simp [h]
  · simp [h, Nat.log2_two_pow]

namespace Labels

open Quantity (isNumber)

section

variable {α : Type} [Quantity α] {rules : LabelRules α} {height : α} {map : PriceMap α}

/-! ## Ties -/

theorem importanceOrder_coarsened (a b : LabelRequest α) :
    importanceOrder a.coarsened b.coarsened = importanceOrder a b := by
  unfold importanceOrder
  rw [rankOfMask_coarsened, rankOfMask_coarsened]
  rfl

section Perm

variable [Std.LawfulEqCmp (Quantity.order (α := α))]

/-- **Ties.** Labels that are equally important differ in finer timeframes at most. -/
theorem coarsened_eq_of_tie {a b : LabelRequest α} (h : importanceOrder a b = .eq) :
    a.coarsened = b.coarsened := by
  unfold importanceOrder at h
  obtain ⟨hpriority, h⟩ := Ordering.then_eq_eq.mp h
  obtain ⟨hrank, h⟩ := Ordering.then_eq_eq.mp h
  obtain ⟨hanchor, hid⟩ := Ordering.then_eq_eq.mp h
  replace hpriority := Std.LawfulEqOrd.eq_of_compare hpriority
  replace hrank := Std.LawfulEqOrd.eq_of_compare hrank
  replace hanchor := Std.LawfulEqCmp.eq_of_compare hanchor
  replace hid := Std.LawfulEqOrd.eq_of_compare hid
  obtain ⟨ida, anchora, prioritya, maska⟩ := a
  obtain ⟨idb, anchorb, priorityb, maskb⟩ := b
  dsimp only at hpriority hrank hanchor hid
  subst hpriority hanchor hid
  unfold LabelRequest.coarsened
  congr 1
  unfold rankOfMask at hrank
  by_cases ha : maska = 0 <;> by_cases hb : maskb = 0 <;> simp_all

variable [Std.TransCmp (Quantity.order (α := α))]

/-- But for those, the turns of some labels are the same whatever order they are asked for in. -/
theorem map_coarsened_inOrder_eq {items others : List (LabelRequest α)} (h : items.Perm others) :
    (inOrder (turns rules height map items)).map (fun turn => (turn.1.coarsened, turn.2)) =
      (inOrder (turns rules height map others)).map fun turn => (turn.1.coarsened, turn.2) := by
  have hperm : (inOrder (turns rules height map items)).Perm
      (inOrder (turns rules height map others)) :=
    (inOrder_perm _).trans ((h.filterMap _).trans (inOrder_perm _).symm)
  have hsorted (l : List (LabelRequest α)) :
      ((inOrder (turns rules height map l)).map fun turn => (turn.1.coarsened, turn.2)).Pairwise
        fun a b => (importanceOrder a.1 b.1).isLE = true := by
    rw [List.pairwise_map]
    simp only [importanceOrder_coarsened]
    exact pairwise_inOrder _
  refine (hperm.map _).eq_of_pairwise ?_ (hsorted items) (hsorted others)
  intro a b ha hb hab hba
  obtain ⟨⟨i, y⟩, hi, rfl⟩ := List.mem_map.mp ha
  obtain ⟨⟨j, z⟩, hj, rfl⟩ := List.mem_map.mp hb
  obtain ⟨-, hy⟩ := mem_turns.mp ((inOrder_perm _).mem_iff.mp hi)
  obtain ⟨-, hz⟩ := mem_turns.mp ((inOrder_perm _).mem_iff.mp hj)
  simp only [importanceOrder_coarsened] at hab hba
  have hsame : i.coarsened = j.coarsened :=
    coarsened_eq_of_tie (Std.OrientedCmp.isLE_antisymm hab hba)
  have hanchor : i.coarsened.anchor = j.coarsened.anchor := congrArg LabelRequest.anchor hsame
  change i.anchor = j.anchor at hanchor
  -- the pixel a label asks for is a matter of its price
  simp only at hy hz
  rw [hanchor, hz, Option.some.injEq] at hy
  rw [hsame, hy]

/-- What the turns of some labels come to is the same whatever order they are asked for in. -/
theorem foldl_place_eq_of_perm {items others : List (LabelRequest α)} (h : items.Perm others)
    (progress : Progress α) :
    (inOrder (turns rules height map items)).foldl (place rules height) progress =
      (inOrder (turns rules height map others)).foldl (place rules height) progress := by
  have hcoarsened (l : List (LabelRequest α × α)) : l.foldl (place rules height) progress =
      (l.map fun turn => (turn.1.coarsened, turn.2)).foldl (place rules height) progress := by
    rw [List.foldl_map]
    rfl
  calc _ = _ := hcoarsened _
    _ = _ := congrArg _ (map_coarsened_inOrder_eq h)
    _ = _ := (hcoarsened _).symm

/-- What is hidden in the end is the same but for its order. -/
theorem afterTurns_layout_eq_of_perm {items others : List (LabelRequest α)}
    (h : items.Perm others) :
    (afterTurns rules height map items).layout = (afterTurns rules height map others).layout := by
  have hpassed : (passedOver rules height map items).Perm (passedOver rules height map others) :=
    (h.filter _).map _
  rw [afterTurns_eq, afterTurns_eq, foldl_place_eq_of_perm h]
  unfold Progress.layout
  congr 1
  exact Sorted.mergeSort_eq_of_perm (hpassed.append_right _) fun _ _ _ _ htie =>
    Std.LawfulEqOrd.eq_of_compare htie

/-- **Any order.** However the labels are asked for, there is one layout, or one reason for none. -/
theorem layout_eq_of_perm {items others : List (LabelRequest α)} (h : items.Perm others) :
    layout rules items map = layout rules others map := by
  cases hheight : measuredHeight map with
  | error what =>
    rw [layout, layout, hheight]
    rfl
  | ok height =>
    by_cases hmapped : ∀ item ∈ items, Mapped map item
    · have hmapped' : ∀ item ∈ others, Mapped map item :=
        fun item hitem => hmapped item (h.mem_iff.mpr hitem)
      rw [layout_of_mapped hheight hmapped, layout_of_mapped hheight hmapped',
        afterTurns_layout_eq_of_perm h]
    · simp only [not_forall] at hmapped
      obtain ⟨item, hitem, hmissing⟩ := hmapped
      rw [layout, layout, hheight]
      simp only [bind, Except.bind, visible_of_not_mapped hitem hmissing,
        visible_of_not_mapped (h.mem_iff.mp hitem) hmissing]

end Perm

/-! ## Sorted lists -/

section Lists

theorem pairwise_hidden (progress : Progress α) : progress.layout.hidden.Pairwise (· ≤ ·) := by
  have hsorted : progress.layout.hidden.Pairwise fun a b => (compare a b).isLE = true :=
    Sorted.mergeSort_pairwise progress.hidden
  exact hsorted.imp fun hle => compare_le_iff_le.mp (Ordering.isLE_iff_ne_gt.mp hle)

variable [Std.TransCmp (Quantity.order (α := α))]

instance : Std.TransCmp (pixelOrder (α := α)) where
  eq_swap {a b} := by
    cases ha : isNumber a <;> cases hb : isNumber b <;> simp only [pixelOrder, ha, hb]
    case true.true => exact ‹Std.TransCmp (Quantity.order (α := α))›.eq_swap
    all_goals rfl
  isLE_trans {a b c} hab hbc := by
    cases ha : isNumber a <;> cases hb : isNumber b <;> cases hc : isNumber c <;>
      simp only [pixelOrder, ha, hb, hc] at hab hbc ⊢
    case true.true.true => exact ‹Std.TransCmp (Quantity.order (α := α))›.isLE_trans hab hbc
    all_goals first | rfl | cases hab | cases hbc

instance : Std.TransCmp (placeOrder (α := α)) :=
  letI : Ord α := ⟨pixelOrder⟩
  haveI : Std.TransOrd α := inferInstanceAs (Std.TransCmp pixelOrder)
  inferInstanceAs (Std.TransCmp (compareLex (compareOn PlacedLabel.y) (compareOn PlacedLabel.id)))

theorem pairwise_placed (progress : Progress α) :
    progress.layout.placed.Pairwise fun a b => (placeOrder a b).isLE = true :=
  Sorted.mergeSort_pairwise progress.placed

end Lists

end

/-- Places that are numbers are in the order of all doubles. -/
theorem pixelOrder_of_isNumber {x y : Float} (hx : isNumber x = true) (hy : isNumber y = true) :
    pixelOrder x y = totalOrder x y := by
  rw [pixelOrder, hx, hy]
  rfl

theorem eq_of_pixelOrder_eq {x y : Float} (h : pixelOrder x y = .eq) : x = y := by
  unfold pixelOrder at h
  split at h
  · exact totalOrder_eq_iff.mp h
  · cases h
  · cases h
  · rename_i hx hy
    rw [← Bool.not_eq_true, isNumber_iff] at hx hy
    exact eq_of_nan hx hy

/-- A label that is not placed after another is above it, or at its place with no greater id. -/
theorem before_of_placeOrder {a b : PlacedLabel Float} (hle : (placeOrder a b).isLE = true) :
    pixelOrder a.y b.y = .lt ∨ a.y = b.y ∧ a.id ≤ b.id := by
  cases hy : pixelOrder a.y b.y with
  | lt => exact Or.inl rfl
  | eq =>
    rw [placeOrder, hy] at hle
    exact Or.inr ⟨eq_of_pixelOrder_eq hy, compare_le_iff_le.mp (Ordering.isLE_iff_ne_gt.mp hle)⟩
  | gt =>
    rw [placeOrder, hy] at hle
    cases hle

/-- **An orderly layout.** It has the labels that were asked for, each as often as it was asked for,
either placed or hidden; the labels placed are sorted from the top down, which for places that are
numbers is the order of all doubles, those at one place by id, and those hidden by id. And it is the
same, or missing for the same reason, in whatever order the labels are asked for. -/
theorem layout_orderly (rules : LabelRules Float) (items : List (LabelRequest Float))
    (map : PriceMap Float) :
    (∀ result, layout rules items map = .ok result →
      result.ids.Perm (items.map (·.id)) ∧
      (result.placed.Pairwise fun a b =>
        pixelOrder a.y b.y = .lt ∨ a.y = b.y ∧ a.id ≤ b.id) ∧
      (result.placed.Pairwise fun a b => isNumber a.y = true → isNumber b.y = true →
        totalOrder a.y b.y = .lt ∨ a.y = b.y ∧ a.id ≤ b.id) ∧
      result.hidden.Pairwise (· ≤ ·)) ∧
    ∀ others, items.Perm others → layout rules others map = layout rules items map := by
  refine ⟨fun result h => ⟨ids_layout h, ?_⟩, fun others h => (layout_eq_of_perm h).symm⟩
  obtain ⟨height, -, -, rfl⟩ := layout_eq_ok_iff.mp h
  have hplaced := (pairwise_placed (afterTurns rules height map items)).imp before_of_placeOrder
  refine ⟨hplaced, hplaced.imp fun {a b} hbefore ha hb => ?_, pairwise_hidden _⟩
  rwa [pixelOrder_of_isNumber ha hb] at hbefore

/-! ## A crowd -/

/-- Two labels of one id tie but for a finer timeframe, a third one comes before them, one hangs at
no price, and one far above the pane. -/
def crowd : List (LabelRequest Float) :=
  [⟨"b", 105.0, 0, 3⟩, ⟨"x", 0.0 / 0.0, 9, 0⟩, ⟨"a", 105.0, 1, 1⟩, ⟨"b", 105.0, 0, 2⟩,
    ⟨"off", 120.0, 5, 0⟩]

theorem layout_orderly_of_crowd :
    ∃ result, layout sixteenApart crowd smallPane = .ok result ∧
      result.ids.Perm ["b", "x", "a", "b", "off"] ∧
      (result.placed.Pairwise fun a b =>
        pixelOrder a.y b.y = .lt ∨ a.y = b.y ∧ a.id ≤ b.id) ∧
      (result.placed.Pairwise fun a b => isNumber a.y = true → isNumber b.y = true →
        totalOrder a.y b.y = .lt ∨ a.y = b.y ∧ a.id ≤ b.id) ∧
      result.hidden.Pairwise (· ≤ ·) ∧
      crowd.Perm crowd.reverse ∧ layout sixteenApart crowd.reverse smallPane = .ok result := by
  obtain ⟨hsorted, hreordered⟩ := layout_orderly sixteenApart crowd smallPane
  have hheight : measuredHeight smallPane = .ok 500.0 := by decide +kernel
  have hmapped : ∀ item ∈ crowd, Mapped smallPane item := by
    unfold Mapped
    decide +kernel
  have hlayout : layout sixteenApart crowd smallPane = .ok _ := layout_of_mapped hheight hmapped
  obtain ⟨hids, hplaced, hnumbers, hhidden⟩ := hsorted _ hlayout
  have hperm : crowd.Perm crowd.reverse := crowd.reverse_perm.symm
  exact ⟨_, hlayout, hids, hplaced, hnumbers, hhidden, hperm, (hreordered _ hperm).trans hlayout⟩

end Labels

end ChartLayer
