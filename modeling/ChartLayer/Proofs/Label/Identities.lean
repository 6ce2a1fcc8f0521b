import ChartLayer.Proofs.Label.Turns
import Mathlib.Data.List.Nodup

/-!
# No label is lost

Whatever the arithmetic, a layout has each label that asked for a place, and no other: it is placed
or hidden, and that once. No price, pane or rule has a say in this.

* `ids_place`: a label that has its turn is placed or hidden.
* `ids_turns`: a label that is not worth showing is hidden, the others have a turn.
* `ids_layout`: so the ids of a layout are those of the labels.
* `LabelLayout.place?_eq_some_iff`: where they are distinct, a label is at the place it is shown at.
-/

namespace ChartLayer

variable {α : Type}

/-- The ids of all labels, placed or hidden. -/
def LabelLayout.ids (layout : LabelLayout α) : List String :=
  layout.placed.map (·.id) ++ layout.hidden

/-- A label that is shown once is shown at its place. -/
theorem LabelLayout.place?_eq_some_iff {result : LabelLayout α} {id : String} {y : α}
    (hids : result.ids.Nodup) :
    result.place? id = some y ↔ ⟨id, y⟩ ∈ result.placed := by
  have honce : (result.placed.map (·.id)).Nodup := (List.nodup_append.mp hids).1
  unfold place?
  constructor
  · intro h
    obtain ⟨p, hp, rfl⟩ := Option.map_eq_some_iff.mp h
    have hid : p.id = id := by simpa using List.find?_some hp
    subst hid
    exact List.mem_of_find?_eq_some hp
  · intro hmem
    cases h : result.placed.find? fun p => p.id == id with
    | none => simpa using List.find?_eq_none.mp h ⟨id, y⟩ hmem
    | some p =>
      have hid : p.id = id := by simpa using List.find?_some h
      have heq : p = ⟨id, y⟩ :=
        List.inj_on_of_nodup_map honce (List.mem_of_find?_eq_some h) hmem hid
      rw [heq]
      rfl

namespace Labels

/-- The ids of the labels that have been dealt with. -/
def Progress.ids (progress : Progress α) : List String :=
  progress.placed.map (·.id) ++ progress.hidden

variable [Quantity α] {rules : LabelRules α} {height : α}

/-- One label is placed, or hidden. -/
theorem ids_place (progress : Progress α) (item : LabelRequest α × α) :
    (place rules height progress item).ids.Perm (progress.ids ++ [item.1.id]) := by
  unfold place
  dsimp only
  split
  · simp [Progress.ids]
  · simp only [Progress.ids, List.map_append, List.append_assoc]
    exact List.perm_append_comm.append_left _

/-- Labels have their turns, one after the other. -/
theorem ids_foldl_place (items : List (LabelRequest α × α)) (progress : Progress α) :
    (items.foldl (place rules height) progress).ids.Perm
      (progress.ids ++ items.map (·.1.id)) := by
  induction items generalizing progress with
  | nil => simp
  | cons item rest ih =>
    have hitem : (place rules height progress item).ids.Perm (progress.ids ++ [item.1.id]) :=
      ids_place progress item
    have hrest := (ih (place rules height progress item)).trans
      (hitem.append_right (rest.map (·.1.id)))
    simpa using hrest

/-- A label has a turn, or is hidden without one. -/
theorem ids_turns (map : PriceMap α) (items : List (LabelRequest α)) :
    (passedOver rules height map items ++
      (turns rules height map items).map (·.1.id)).Perm (items.map (·.id)) := by
  induction items with
  | nil => exact .nil
  | cons item rest ih =>
    rw [turns_cons, passedOver_cons, List.map_append]
    cases asked? rules height map item.anchor with
    | none => exact ih.cons item.id
    | some y => exact List.perm_middle.trans (ih.cons item.id)

/-- Sorting the labels leaves them what they are. -/
theorem ids_sorted (progress : Progress α) : progress.layout.ids.Perm progress.ids :=
  ((List.mergeSort_perm progress.placed _).map PlacedLabel.id).append
    (List.mergeSort_perm progress.hidden _)

/-- **Nothing is lost.** The labels of a layout are those that asked for a place. -/
theorem ids_layout {items : List (LabelRequest α)} {map : PriceMap α} {result : LabelLayout α}
    (h : layout rules items map = .ok result) : result.ids.Perm (items.map (·.id)) := by
  obtain ⟨height, -, -, rfl⟩ := layout_eq_ok_iff.mp h
  have hinOrder : ((inOrder (turns rules height map items)).map (·.1.id)).Perm
      ((turns rules height map items).map (·.1.id)) := (inOrder_perm _).map _
  refine (ids_sorted _).trans ((ids_foldl_place _ _).trans ?_)
  exact (hinOrder.append_left _).trans (ids_turns map items)

end Labels

end ChartLayer
