import ChartLayer.Label
import ChartLayer.Proofs.Outcome
import ChartLayer.Proofs.Sorted

/-!
# The turns of the labels

A layout is one fold. The labels near the pane have a turn each, in the order of importance, and are
placed or hidden in it; all others are hidden without a turn. Whether a label has a turn, and which
pixel it asks for then, is a matter of its price alone, and no turn looks at more of a label than
its id and that pixel.

* `asked?`: the pixel that a label asks for, if it has a turn.
* `layout_eq_ok_iff`: when there is a layout, and which.
* `mem_placed_foldl`, `mem_hidden_foldl`: a turn leaves all labels alone but its own.
-/

namespace ChartLayer.Labels

open Quantity (isFinite)

variable {α : Type} [Quantity α] {rules : LabelRules α} {height : α} {map : PriceMap α}

/-! ## Who has a turn -/

/-- The pane has a pixel for the label, unless it needs none. -/
def Mapped (map : PriceMap α) (item : LabelRequest α) : Prop :=
  isFinite item.anchor = true → (map.pixelOf item.anchor).isSome = true

/-- The pixel that a label at a price asks for, if it has a turn. -/
def asked? (rules : LabelRules α) (height : α) (map : PriceMap α) (anchor : α) : Option α :=
  if isFinite anchor = true then
    (map.pixelOf anchor).bind fun pixel => desired? rules height (Quantity.round pixel)
  else none

/-- The turns that the labels have, with the pixels they ask for. -/
def turns (rules : LabelRules α) (height : α) (map : PriceMap α) (items : List (LabelRequest α)) :
    List (LabelRequest α × α) :=
  items.filterMap fun item => (asked? rules height map item.anchor).map (item, ·)

/-- The ids of the labels that have no turn. -/
def passedOver (rules : LabelRules α) (height : α) (map : PriceMap α)
    (items : List (LabelRequest α)) : List String :=
  (items.filter fun item => (asked? rules height map item.anchor).isNone).map (·.id)

@[simp]
theorem turns_cons (item : LabelRequest α) (rest : List (LabelRequest α)) :
    turns rules height map (item :: rest) =
      ((asked? rules height map item.anchor).map (item, ·)).toList ++
        turns rules height map rest := by
  unfold turns
  cases h : asked? rules height map item.anchor <;> simp [h]

@[simp]
theorem passedOver_cons (item : LabelRequest α) (rest : List (LabelRequest α)) :
    passedOver rules height map (item :: rest) =
      (if (asked? rules height map item.anchor).isNone then [item.id] else []) ++
        passedOver rules height map rest := by
  unfold passedOver
  cases h : asked? rules height map item.anchor <;> simp [h]

theorem mem_turns {items : List (LabelRequest α)} {turn : LabelRequest α × α} :
    turn ∈ turns rules height map items ↔
      turn.1 ∈ items ∧ asked? rules height map turn.1.anchor = some turn.2 := by
  unfold turns
  obtain ⟨item, y⟩ := turn
  simp only [List.mem_filterMap, Option.map_eq_some_iff, Prod.mk.injEq]
  constructor
  · rintro ⟨i, hi, y, hy, rfl, rfl⟩
    exact ⟨hi, hy⟩
  · rintro ⟨hi, hy⟩
    exact ⟨item, hi, y, hy, rfl, rfl⟩

theorem map_fst_turns (items : List (LabelRequest α)) :
    (turns rules height map items).map Prod.fst =
      items.filter fun item => (asked? rules height map item.anchor).isSome := by
  induction items with
  | nil => rfl
  | cons item rest ih =>
    rw [turns_cons, List.map_append, ih, List.filter_cons]
    cases asked? rules height map item.anchor <;> rfl

/-- If there is a pixel for each label that needs one, the labels have their turns. -/
theorem visible_of_mapped {items : List (LabelRequest α)} (h : ∀ item ∈ items, Mapped map item) :
    visible rules height map items =
      .ok (turns rules height map items, passedOver rules height map items) := by
  induction items with
  | nil => rfl
  | cons item rest ih =>
    obtain ⟨hitem, hrest⟩ := List.forall_mem_cons.mp h
    rw [visible, ih hrest, turns_cons, passedOver_cons]
    by_cases hanchor : isFinite item.anchor = true
    · obtain ⟨pixel, hpixel⟩ := Option.isSome_iff_exists.mp (hitem hanchor)
      have hasked : asked? rules height map item.anchor =
          desired? rules height (Quantity.round pixel) := by
        simp [asked?, hanchor, hpixel]
      rw [hasked, hpixel]
      cases hdesired : desired? rules height (Quantity.round pixel) <;>
        simp [hanchor, hdesired, Except.map]
    · have hasked : asked? rules height map item.anchor = none := if_neg hanchor
      simp [hanchor, hasked, Except.map]

/-- If one is missing, there is no layout, whichever it is. -/
theorem visible_of_not_mapped {items : List (LabelRequest α)} {item : LabelRequest α}
    (hitem : item ∈ items) (h : ¬Mapped map item) :
    visible rules height map items = .error .labelPixel := by
  induction items with
  | nil => cases hitem
  | cons first rest ih =>
    rw [visible]
    rcases List.mem_cons.mp hitem with rfl | hitem
    · obtain ⟨hanchor, hpixel⟩ := Classical.not_imp.mp h
      rw [Option.not_isSome_iff_eq_none] at hpixel
      simp [hanchor, hpixel]
    · rw [ih hitem]
      split
      · rfl
      · split <;> rfl

/-! ## All turns -/

/-- The turns in the order of importance. -/
def inOrder (turns : List (LabelRequest α × α)) : List (LabelRequest α × α) :=
  turns.mergeSort fun a b => (importanceOrder a.1 b.1).isLE

theorem inOrder_perm (turns : List (LabelRequest α × α)) : (inOrder turns).Perm turns :=
  List.mergeSort_perm turns _

/-- What there is after all turns. -/
def afterTurns (rules : LabelRules α) (height : α) (map : PriceMap α)
    (items : List (LabelRequest α)) : Progress α :=
  (inOrder (turns rules height map items)).foldl (place rules height)
    { hidden := passedOver rules height map items }

/-- The order of the labels shown: from the top down, then by id. -/
def placeOrder (a b : PlacedLabel α) : Ordering := (pixelOrder a.y b.y).then (compare a.id b.id)

/-- The layout that progress amounts to. -/
def Progress.layout (progress : Progress α) : LabelLayout α where
  placed := progress.placed.mergeSort fun a b => (placeOrder a b).isLE
  hidden := progress.hidden.mergeSort fun a b => (compare a b).isLE

/-- A height that is used is that of the pane, and not zero. -/
theorem of_measuredHeight (h : measuredHeight map = .ok height) :
    map.paneHeight = some height ∧ 0.0 < height := by
  unfold measuredHeight at h
  split at h
  · rename_i measured hmeasured
    split at h
    · rename_i hpositive
      cases h
      exact ⟨hmeasured, hpositive.1⟩
    · cases h
  · cases h

/-- With a pane that has been measured, and a pixel for each label that needs one, there is a
layout. -/
theorem layout_of_mapped {items : List (LabelRequest α)} (hheight : measuredHeight map = .ok height)
    (h : ∀ item ∈ items, Mapped map item) :
    layout rules items map = .ok (afterTurns rules height map items).layout := by
  rw [layout, hheight]
  simp only [bind, Except.bind, visible_of_mapped h]
  rfl

/-- Without the one or the other there is none. -/
theorem layout_eq_ok_iff {items : List (LabelRequest α)} {result : LabelLayout α} :
    layout rules items map = .ok result ↔
      ∃ height, measuredHeight map = .ok height ∧ (∀ item ∈ items, Mapped map item) ∧
        result = (afterTurns rules height map items).layout := by
  constructor
  · intro h
    obtain ⟨height, hheight, hvisible⟩ := exists_of_bind_ok h
    have hmapped : ∀ item ∈ items, Mapped map item := by
      intro item hitem
      by_contra hmissing
      rw [visible_of_not_mapped hitem hmissing] at hvisible
      cases hvisible
    rw [layout_of_mapped hheight hmapped] at h
    cases h
    exact ⟨height, hheight, hmapped, rfl⟩
  · rintro ⟨height, hheight, hmapped, rfl⟩
    exact layout_of_mapped hheight hmapped

/-! ## The order of importance -/

section Order

variable [Std.TransCmp (Quantity.order (α := α))]

instance : Std.TransCmp (importanceOrder (α := α)) :=
  letI : Ord α := ⟨Quantity.order⟩
  haveI : Std.TransOrd α := ‹Std.TransCmp Quantity.order›
  inferInstanceAs (Std.TransCmp
    (compareLex (fun a b : LabelRequest α => compareOn LabelRequest.priority b a)
      (compareLex (fun a b => compareOn (fun i => rankOfMask i.mask) b a)
        (compareLex (fun a b => compareOn LabelRequest.anchor b a) (compareOn LabelRequest.id)))))

instance : Std.TransCmp fun a b : LabelRequest α × α => importanceOrder a.1 b.1 where
  eq_swap := Std.OrientedCmp.eq_swap
  isLE_trans := Std.TransCmp.isLE_trans

theorem pairwise_inOrder (turns : List (LabelRequest α × α)) :
    (inOrder turns).Pairwise fun a b => (importanceOrder a.1 b.1).isLE = true :=
  Sorted.mergeSort_pairwise turns

end Order

/-! ## What turns add -/

/-- One place more. -/
theorem insertPlace_perm {taken : List α} {y : α} : (insertPlace taken y).Perm (y :: taken) := by
  unfold insertPlace
  refine List.perm_middle.trans (List.Perm.cons y ?_)
  rw [List.take_append_drop]

/-- Labels that were hidden before have no say in the turns. -/
theorem foldl_place_hidden (turns : List (LabelRequest α × α)) (progress : Progress α)
    (before : List String) :
    turns.foldl (place rules height) { progress with hidden := before ++ progress.hidden } =
      { turns.foldl (place rules height) progress with
        hidden := before ++ (turns.foldl (place rules height) progress).hidden } := by
  induction turns generalizing progress with
  | nil => rfl
  | cons turn rest ih =>
    have hturn : place rules height { progress with hidden := before ++ progress.hidden } turn =
        { place rules height progress turn with
          hidden := before ++ (place rules height progress turn).hidden } := by
      unfold place
      dsimp only
      split <;> simp
    rw [List.foldl_cons, List.foldl_cons, hturn, ih]

/-- The labels that have no turn are hidden besides what the turns come to. -/
theorem afterTurns_eq (items : List (LabelRequest α)) :
    afterTurns rules height map items =
      { (inOrder (turns rules height map items)).foldl (place rules height) {} with
        hidden := passedOver rules height map items ++
          ((inOrder (turns rules height map items)).foldl (place rules height) {}).hidden } := by
  rw [← foldl_place_hidden]
  simp only [List.append_nil]
  rfl

/-- A label is where it was after turns of other labels. -/
theorem mem_placed_foldl {turns : List (LabelRequest α × α)} {p : PlacedLabel α}
    (h : ∀ turn ∈ turns, turn.1.id ≠ p.id) (progress : Progress α) :
    p ∈ (turns.foldl (place rules height) progress).placed ↔ p ∈ progress.placed := by
  induction turns generalizing progress with
  | nil => exact Iff.rfl
  | cons turn rest ih =>
    obtain ⟨hturn, hrest⟩ := List.forall_mem_cons.mp h
    rw [List.foldl_cons, ih hrest, place]
    split
    · exact Iff.rfl
    · rw [List.mem_append, List.mem_singleton, or_iff_left]
      rintro rfl
      exact hturn rfl

/-- A label is hidden as it was after turns of other labels. -/
theorem mem_hidden_foldl {turns : List (LabelRequest α × α)} {id : String}
    (h : ∀ turn ∈ turns, turn.1.id ≠ id) (progress : Progress α) :
    id ∈ (turns.foldl (place rules height) progress).hidden ↔ id ∈ progress.hidden := by
  induction turns generalizing progress with
  | nil => exact Iff.rfl
  | cons turn rest ih =>
    obtain ⟨hturn, hrest⟩ := List.forall_mem_cons.mp h
    rw [List.foldl_cons, ih hrest, place]
    split
    · rw [List.mem_append, List.mem_singleton, or_iff_left hturn.symm]
    · exact Iff.rfl

/-! ## A pane -/

/-- A pane of 500 pixels with 100 at the bottom and 110 at the top. -/
def smallPane : PriceMap Float := .linear (some 500.0) (some ⟨100.0, 110.0⟩)

/-- Labels keep 16 pixels from each other. -/
def sixteenApart : LabelRules Float := { minGap := 16.0, margin := 8.0 }

end ChartLayer.Labels
