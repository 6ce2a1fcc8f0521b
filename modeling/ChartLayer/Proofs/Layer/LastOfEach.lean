import ChartLayer.Layer.Content
import Mathlib.Data.List.Nodup

/-!
# The last item of each key

`lastOfEach` keeps one item of each key, and `drawingsOf` looks at no other: what is wanted on the
surface is the same for all items and for the last ones (`drawingsOf_lastOfEach`). The items that
are not kept are those superseded (`length_lastOfEach_add`), and there is none where keys are
distinct (`supersededOf_eq_nil_iff`).
-/

namespace ChartLayer

variable {β : Type} {key : β → String} {drawing : β → Drawing}

/-! ## One item for each key -/

theorem lastOfEach_subset (key : β → String) (items : List β) : lastOfEach key items ⊆ items := by
  induction items with
  | nil => exact List.Subset.refl _
  | cons x rest ih =>
    unfold lastOfEach
    split
    · exact List.Subset.trans ih (List.subset_cons_self x rest)
    · exact List.cons_subset_cons x ih

theorem any_key_eq (key : β → String) (x : β) (items : List β) :
    (items.any fun y => key y == key x) = true ↔ key x ∈ items.map key := by
  simp [List.any_eq_true]

theorem nodup_lastOfEach (key : β → String) (items : List β) :
    ((lastOfEach key items).map key).Nodup := by
  induction items with
  | nil => exact List.nodup_nil
  | cons x rest ih =>
    unfold lastOfEach
    split
    · exact ih
    · rename_i hlast
      rw [any_key_eq] at hlast
      exact List.nodup_cons.mpr
        ⟨fun hmem => hlast (List.map_subset key (lastOfEach_subset key rest) hmem), ih⟩

/-- Each item is the last one of its key, or is superseded. -/
theorem length_lastOfEach_add (key : β → String) (items : List β) :
    (lastOfEach key items).length + (supersededOf key items).length = items.length := by
  induction items with
  | nil => rfl
  | cons x rest ih =>
    unfold lastOfEach supersededOf
    split <;> simp only [List.length_cons] <;> omega

/-- Nothing is superseded just if no key comes again. -/
theorem supersededOf_eq_nil_iff (key : β → String) (items : List β) :
    supersededOf key items = [] ↔ (items.map key).Nodup := by
  induction items with
  | nil => simp [supersededOf]
  | cons x rest ih =>
    rw [List.map_cons, List.nodup_cons, ← any_key_eq, ← ih, supersededOf]
    split
    · rename_i hagain
      exact iff_of_false (List.cons_ne_nil x _) fun h => h.1 hagain
    · rename_i hlast
      exact (and_iff_right hlast).symm

/-- Changing items but for their keys does not change which ones are the last. -/
theorem lastOfEach_map (f : β → β) (hf : ∀ x, key (f x) = key x) (items : List β) :
    lastOfEach key (items.map f) = (lastOfEach key items).map f := by
  induction items with
  | nil => rfl
  | cons x rest ih =>
    have hagain : ((rest.map f).any fun y => key y == key (f x)) =
        rest.any fun y => key y == key x := by
      simp only [List.any_map, Function.comp_def, hf]
    rw [List.map_cons, lastOfEach, lastOfEach, hagain, ih]
    split <;> rfl

/-! ## What is wanted -/

/-- Adds what is wanted to what was wanted before. -/
def addDrawings (key : β → String) (drawing : β → Drawing) (items : List β)
    (drawings : DesiredDrawings) : DesiredDrawings :=
  items.foldl (fun drawings x => drawings.insert (key x) (drawing x)) drawings

theorem getElem?_addDrawings_of_notMem {items : List β} {k : String} (hk : k ∉ items.map key)
    (drawings : DesiredDrawings) : (addDrawings key drawing items drawings)[k]? = drawings[k]? := by
  induction items generalizing drawings with
  | nil => rfl
  | cons x rest ih =>
    rw [List.map_cons, List.mem_cons, not_or] at hk
    obtain ⟨hx, hrest⟩ := hk
    refine (ih hrest (drawings.insert (key x) (drawing x))).trans ?_
    simp [Std.ExtTreeMap.getElem?_insert, Ne.symm hx]

theorem getElem?_addDrawings_of_mem {items : List β} (hdistinct : (items.map key).Nodup) {x : β}
    (hx : x ∈ items) (drawings : DesiredDrawings) :
    (addDrawings key drawing items drawings)[key x]? = some (drawing x) := by
  induction items generalizing drawings with
  | nil => cases hx
  | cons y rest ih =>
    obtain ⟨hy, hrest⟩ := List.nodup_cons.mp hdistinct
    rcases List.mem_cons.mp hx with rfl | hx
    · refine (getElem?_addDrawings_of_notMem hy (drawings.insert (key x) (drawing x))).trans ?_
      simp
    · exact ih hrest hx _

/-- What is wanted under the keys of the items does not depend on what was wanted before. -/
theorem addDrawings_congr {items : List β} {before before' : DesiredDrawings}
    (h : ∀ k, k ∉ items.map key → before[k]? = before'[k]?) :
    addDrawings key drawing items before = addDrawings key drawing items before' := by
  induction items generalizing before before' with
  | nil => exact Std.ExtTreeMap.ext_getElem? (fun {k} => h k List.not_mem_nil)
  | cons x rest ih =>
    refine ih fun k hk => ?_
    rw [Std.ExtTreeMap.getElem?_insert, Std.ExtTreeMap.getElem?_insert]
    split
    · rfl
    · rename_i hx
      refine h k (List.not_mem_cons_of_ne_of_not_mem ?_ hk)
      rintro rfl
      simp at hx

theorem addDrawings_lastOfEach (items : List β) (before : DesiredDrawings) :
    addDrawings key drawing (lastOfEach key items) before =
      addDrawings key drawing items before := by
  induction items generalizing before with
  | nil => rfl
  | cons x rest ih =>
    unfold lastOfEach
    split
    · rename_i hagain
      rw [any_key_eq] at hagain
      refine (ih before).trans (addDrawings_congr fun k hk => ?_)
      have hne : key x ≠ k := by
        rintro rfl
        exact hk hagain
      simp [Std.ExtTreeMap.getElem?_insert, hne]
    · exact ih (before.insert (key x) (drawing x))

/-- **The last one counts.** -/
theorem drawingsOf_lastOfEach (key : β → String) (drawing : β → Drawing) (items : List β) :
    drawingsOf key drawing (lastOfEach key items) = drawingsOf key drawing items :=
  addDrawings_lastOfEach items ∅

theorem getElem?_drawingsOf_of_mem {items : List β} (hdistinct : (items.map key).Nodup) {x : β}
    (hx : x ∈ items) : (drawingsOf key drawing items)[key x]? = some (drawing x) :=
  getElem?_addDrawings_of_mem hdistinct hx ∅

theorem getElem?_drawingsOf_of_notMem {items : List β} {k : String} (hk : k ∉ items.map key) :
    (drawingsOf key drawing items)[k]? = none := by
  have hempty : (∅ : DesiredDrawings)[k]? = none := Std.ExtTreeMap.getElem?_empty
  exact (getElem?_addDrawings_of_notMem hk ∅).trans hempty

end ChartLayer
