import ChartLayer.Price.Scale

/-!
# What a gesture does to the drag

The surface has its own pan, and a vertical drag switches it off. It is the effects that say so:
whenever a gesture begins or ends a drag, its effect has to say what the pan is from then on. Two
gestures do not. `PriceScale.pressesAgain` is a second press in the middle of a drag, which takes
the place of the drag without giving the pan back. `PriceScale.engagesInVain` is a move that begins
a drag whose first range then cannot be shown: the gesture is deferred as if nothing had happened.

* `PointerStep`: the ways in which a movement of the pointer can go.
* `sameBehind_apply`: what no gesture touches.
* `deferred_handle`, `deferred_retry`: what waits for geometry.
* `agrees_handle`, `agrees_retry`: the effect and the drag agree, except after those two.
-/

namespace ChartLayer.PriceScale

variable {α : Type} (s : PriceScale α)

/-! ## What a gesture can do -/

section Steps

variable [Quantity α]

/-- The ways in which a movement of the pointer to `y` can go: what it answers, and the scale after
it. -/
inductive PointerStep (s : PriceScale α) (y : α) (map : PriceMap α) :
    Except MissingGeometry GestureEffect × PriceScale α → Prop
  /-- Nothing is pressed, or the pointer has not gone far enough. -/
  | idle : PointerStep s y map (.ok {}, s)
  /-- The drag is left to the surface. -/
  | released {startX startY : α} :
    s.drag = .armed startX startY → PointerStep s y map (.ok {}, { s with drag := .released })
  | engaged {startX startY height : α} {origin next : PriceRange α} (changed : Bool) :
    s.drag = .armed startX startY → map.paneHeight = some height → s.effective = some origin →
    dragged s.rules origin (y - startY) height = .ok next →
    PointerStep s y map (.ok { rangeChanged := changed, surfacePan := some false },
      { s with drag := .engaged startY origin, manual := some next })
  /-- The drag is engaged by the time its first range turns out not to be there. -/
  | engagedInVain {startX startY height : α} {origin : PriceRange α} {what : MissingGeometry} :
    s.drag = .armed startX startY → map.paneHeight = some height → s.effective = some origin →
    dragged s.rules origin (y - startY) height = .error what →
    PointerStep s y map (.error what, { s with drag := .engaged startY origin })
  | moved {startY height : α} {origin next : PriceRange α} (changed : Bool) :
    s.drag = .engaged startY origin → map.paneHeight = some height →
    dragged s.rules origin (y - startY) height = .ok next →
    PointerStep s y map (.ok { rangeChanged := changed }, s.applyManual next)
  /-- The pane has no height, nothing is shown, or the range cannot follow. -/
  | lacking (what : MissingGeometry) : PointerStep s y map (.error what, s)

theorem pointerStep (x y : α) (map : PriceMap α) :
    PointerStep s y map (s.followPointer x y map) := by
  unfold followPointer followDrag
  split
  · exact .idle
  · exact .idle
  · rename_i startX startY hdrag
    dsimp only
    split
    · split
      · exact .lacking _
      · exact .lacking _
      · rename_i height origin hheight hshown
        split <;> rename_i hdragged
        · exact .engaged _ hdrag hheight hshown hdragged
        · exact .engagedInVain hdrag hheight hshown hdragged
    · split
      · exact .released hdrag
      · exact .idle
  · rename_i startY origin hdrag
    split
    · exact .lacking _
    · rename_i height hheight
      split
      · rename_i hdragged
        exact .moved _ hdrag hheight hdragged
      · exact .lacking _

/-- Every wheel, also one that does nothing, gives a range, none, or what it lacks. -/
theorem apply_wheel (y delta : α) (modifier : Bool) (region : PointerArea) (map : PriceMap α) :
    ∃ next, s.apply (.wheel y delta modifier region) map = s.applyWheel next := by
  cases region with
  | priceAxis => exact ⟨s.zoomed y delta map, rfl⟩
  | plot =>
    cases modifier
    · exact ⟨.ok none, rfl⟩
    · exact ⟨s.wheelPanned delta map, rfl⟩
  | outside => exact ⟨.ok none, rfl⟩

end Steps

/-! ## What stays -/

/-- Only the manual range and the drag differ. -/
structure SameBehind (s s' : PriceScale α) : Prop where
  rules : s'.rules = s.rules
  auto : s'.auto = s.auto
  deferred : s'.deferred = s.deferred

theorem sameBehind_applyWheel (next : Except MissingGeometry (Option (PriceRange α))) :
    SameBehind s (s.applyWheel next).2 := by
  unfold applyWheel
  split <;> exact ⟨rfl, rfl, rfl⟩

variable [Quantity α]

theorem sameBehind_followPointer (x y : α) (map : PriceMap α) :
    SameBehind s (s.followPointer x y map).2 := by
  have hstep := s.pointerStep x y map
  generalize s.followPointer x y map = out at hstep ⊢
  cases hstep <;> exact ⟨rfl, rfl, rfl⟩

/-- **Any gesture.** It takes hold of the manual range and of the drag, and of nothing else. -/
theorem sameBehind_apply (g : Gesture α) (map : PriceMap α) :
    SameBehind s (s.apply g map).2 := by
  cases g with
  | pointerMove x y => exact sameBehind_followPointer s x y map
  | wheel y delta modifier region =>
    obtain ⟨next, hnext⟩ := s.apply_wheel y delta modifier region map
    rw [hnext]
    exact sameBehind_applyWheel s next
  | pointerDown x y region => cases region <;> exact ⟨rfl, rfl, rfl⟩
  | doubleClick region => cases region <;> exact ⟨rfl, rfl, rfl⟩
  | pointerUp | pointerCancel | blur => exact ⟨rfl, rfl, rfl⟩

/-! ## What waits -/

/-- A gesture that waits after another was handled is that one, and the effect says so, or it has
been waiting before. -/
theorem deferred_handle (g : Gesture α) (map : PriceMap α) :
    (s.handle g map).1.deferred = true ∨ (s.handle g map).2.deferred = s.deferred := by
  have hkept := (s.sameBehind_apply g map).deferred
  unfold handle
  split
  · rename_i heq
    rw [heq] at hkept
    exact Or.inr hkept
  · exact Or.inl rfl

/-- After a retry nothing waits. -/
theorem deferred_retry (map : PriceMap α) : (s.retry map).2.deferred = none := by
  unfold retry
  split
  · assumption
  · rename_i g _
    have hkept := (sameBehind_apply { s with deferred := none } g map).deferred
    split <;> rename_i heq <;> rw [heq] at hkept <;> exact hkept

/-! ## Drag and pan -/

/-- What an effect says of the pan is so: off while a drag is engaged, on while none is. One that
says nothing leaves the pan as the drag before had it. -/
def Agrees (before : PriceScale α) (effect : GestureEffect) (after : PriceScale α) : Prop :=
  effect.surfacePan.getD (!before.drag.isEngaged) = !after.drag.isEngaged

omit [Quantity α] in
theorem agrees_of_drag_eq {s s' : PriceScale α} {effect : GestureEffect}
    (hsilent : effect.surfacePan = none) (hdrag : s'.drag = s.drag) : Agrees s effect s' := by
  unfold Agrees
  rw [hsilent, hdrag, Option.getD_none]

omit [Quantity α] in
theorem drag_applyWheel (next : Except MissingGeometry (Option (PriceRange α))) :
    (s.applyWheel next).2.drag = s.drag := by
  unfold applyWheel
  split <;> rfl

variable {s}

omit [Quantity α] in
theorem agrees_applyWheel {next : Except MissingGeometry (Option (PriceRange α))}
    {effect : GestureEffect} {after : PriceScale α} (h : s.applyWheel next = (.ok effect, after)) :
    Agrees s effect after := by
  have hdrag := s.drag_applyWheel next
  rw [h] at hdrag
  refine agrees_of_drag_eq ?_ hdrag
  unfold applyWheel at h
  split at h <;> cases h <;> rfl

/-- A move that begins a drag switches the pan off. -/
theorem agrees_followPointer {x y : α} {map : PriceMap α} {effect : GestureEffect}
    {after : PriceScale α} (h : s.followPointer x y map = (.ok effect, after)) :
    Agrees s effect after := by
  have hstep := s.pointerStep x y map
  rw [h] at hstep
  cases hstep with
  | idle => exact agrees_of_drag_eq rfl rfl
  | released hdrag =>
    unfold Agrees
    rw [hdrag]
    rfl
  | engaged => rfl
  | moved => exact agrees_of_drag_eq rfl rfl

/-- A move that lacks geometry does not end a drag. -/
theorem engaged_followPointer (hengaged : s.drag.isEngaged = true) (x y : α) (map : PriceMap α) :
    (s.followPointer x y map).2.drag.isEngaged = true := by
  have hstep := s.pointerStep x y map
  generalize s.followPointer x y map = out at hstep ⊢
  cases hstep with
  | idle | moved | lacking => exact hengaged
  | engaged | engagedInVain => rfl
  | released hdrag =>
    rw [hdrag] at hengaged
    cases hengaged

/-- A press while a drag is engaged. -/
def pressesAgain (g : Gesture α) (s : PriceScale α) : Bool :=
  match g with
  | .pointerDown .. => s.drag.isEngaged
  | _ => false

/-- A gesture that engages a drag and then lacks geometry. -/
def engagesInVain (g : Gesture α) (map : PriceMap α) (s : PriceScale α) : Bool :=
  match s.apply g map with
  | (.error _, after) => !s.drag.isEngaged && after.drag.isEngaged
  | (.ok _, _) => false

/-- Whether drag and pan go apart. -/
def slips (g : Gesture α) (map : PriceMap α) (s : PriceScale α) : Bool :=
  s.pressesAgain g || s.engagesInVain g map

/-- A wheel never does. -/
theorem slips_wheel (y delta : α) (modifier : Bool) (region : PointerArea) (map : PriceMap α) :
    s.slips (.wheel y delta modifier region) map = false := by
  obtain ⟨next, hnext⟩ := s.apply_wheel y delta modifier region map
  have hdrag := s.drag_applyWheel next
  unfold slips engagesInVain
  rw [hnext]
  split
  · rename_i heq
    rw [heq] at hdrag
    rw [hdrag, Bool.not_and_self]
    rfl
  · rfl

/-- **A gesture that is applied.** Only a second press leaves the pan as it should not be. -/
theorem agrees_apply {g : Gesture α} (hpress : s.pressesAgain g = false) {map : PriceMap α}
    {effect : GestureEffect} {after : PriceScale α} (h : s.apply g map = (.ok effect, after)) :
    Agrees s effect after := by
  cases g with
  | pointerMove x y => exact agrees_followPointer h
  | wheel y delta modifier region =>
    obtain ⟨next, hnext⟩ := s.apply_wheel y delta modifier region map
    rw [hnext] at h
    exact agrees_applyWheel h
  | pointerDown x y region =>
    have hidle : s.drag.isEngaged = false := hpress
    unfold Agrees
    rw [hidle]
    cases region <;> cases h <;> rfl
  | doubleClick region =>
    cases region <;> cases h <;> exact agrees_of_drag_eq rfl rfl
  | pointerUp | pointerCancel | blur =>
    cases h
    unfold Agrees
    cases s.drag.isEngaged <;> rfl

/-- **A gesture that is deferred.** It leaves the drag engaged if and only if it was. -/
theorem engaged_apply {g : Gesture α} {map : PriceMap α} (hvain : s.engagesInVain g map = false)
    {what : MissingGeometry} {after : PriceScale α} (h : s.apply g map = (.error what, after)) :
    after.drag.isEngaged = s.drag.isEngaged := by
  cases hengaged : s.drag.isEngaged with
  | false =>
    unfold engagesInVain at hvain
    rw [h, hengaged] at hvain
    exact hvain
  | true =>
    cases g with
    | pointerMove x y =>
      have hstill := engaged_followPointer hengaged x y map
      change (s.apply (.pointerMove x y) map).2.drag.isEngaged = true at hstill
      rwa [h] at hstill
    | wheel y delta modifier region =>
      obtain ⟨next, hnext⟩ := s.apply_wheel y delta modifier region map
      have hdrag := s.drag_applyWheel next
      rw [← hnext, h] at hdrag
      rw [hdrag, hengaged]
    | pointerDown x y region => cases region <;> cases h
    | doubleClick region => cases region <;> cases h
    | pointerUp | pointerCancel | blur => cases h

/-- **Handling a gesture.** -/
theorem agrees_handle {g : Gesture α} {map : PriceMap α} (h : s.slips g map = false) :
    Agrees s (s.handle g map).1 (s.handle g map).2 := by
  obtain ⟨hpress, hvain⟩ := Bool.or_eq_false_iff.mp h
  unfold handle
  split
  · rename_i heq
    exact agrees_apply hpress heq
  · rename_i heq
    have hstill := engaged_apply hvain heq
    unfold Agrees
    exact congrArg (!·) hstill.symm

/-- Whether the retry of the gesture that waits makes drag and pan go apart. -/
def retrySlips (map : PriceMap α) (s : PriceScale α) : Bool :=
  s.deferred.any fun g => slips g map { s with deferred := none }

/-- **The retry.** -/
theorem agrees_retry {map : PriceMap α} (h : s.retrySlips map = false) :
    Agrees s ((s.retry map).1.getD {}) (s.retry map).2 := by
  unfold retrySlips at h
  unfold retry
  split
  · exact agrees_of_drag_eq rfl rfl
  · rename_i g hdeferred
    rw [hdeferred] at h
    obtain ⟨hpress, hvain⟩ := Bool.or_eq_false_iff.mp h
    split
    · rename_i heq
      exact agrees_apply hpress heq
    · rename_i heq
      have hstill := engaged_apply hvain heq
      unfold Agrees
      exact congrArg (!·) hstill.symm

end ChartLayer.PriceScale
