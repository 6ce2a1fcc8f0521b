import ChartLayer.Proofs.Price.Gestures
import ChartLayer.Settings.Basic

/-!
# What a gesture that cannot be applied leaves behind

A gesture that lacks geometry waits for a frame and is then retried once. It should leave nothing
else behind, and with one exception it does not: a move that engages a drag has engaged it by the
time it turns out that the first range of the drag cannot be shown (`EngagesAt`).

* `apply_error`: a gesture that lacks geometry leaves the scale as it was, or engages.
* `deferral_leaves_no_more`: so do the deferral and the retry.
* `deferral_engages`: both really may leave an engaged drag behind.
-/

namespace ChartLayer.PriceScale

variable {α : Type} [Quantity α] {s : PriceScale α} {map : PriceMap α}

/-- The move of an armed drag that engages it at `startY`, where the range that was shown then
cannot follow the pointer. -/
structure EngagesAt (s : PriceScale α) (g : Gesture α) (map : PriceMap α) (startY : α)
    (origin : PriceRange α) : Prop where
  armed : ∃ startX, s.drag = .armed startX startY
  shown : s.effective = some origin
  fails : ∃ x y height what, g = .pointerMove x y ∧ map.paneHeight = some height ∧
    dragged s.rules origin (y - startY) height = .error what

/-! ## One gesture -/

omit [Quantity α] in
theorem applyWheel_error {next : Except MissingGeometry (Option (PriceRange α))}
    {what : MissingGeometry} {after : PriceScale α} (h : s.applyWheel next = (.error what, after)) :
    after = s := by
  unfold applyWheel at h
  split at h <;> cases h
  rfl

theorem followPointer_error {x y : α} {what : MissingGeometry} {after : PriceScale α}
    (h : s.followPointer x y map = (.error what, after)) :
    after = s ∨ ∃ startY origin, EngagesAt s (.pointerMove x y) map startY origin ∧
      after = { s with drag := .engaged startY origin } := by
  have hstep := s.pointerStep x y map
  rw [h] at hstep
  cases hstep with
  | lacking => exact Or.inl rfl
  | engagedInVain hdrag hheight hshown hfails =>
    exact Or.inr ⟨_, _, ⟨⟨_, hdrag⟩, hshown, x, y, _, _, rfl, hheight, hfails⟩, rfl⟩

/-- **A gesture that lacks geometry.** The scale stays as it was, or the gesture engages. -/
theorem apply_error {g : Gesture α} {what : MissingGeometry} {after : PriceScale α}
    (h : s.apply g map = (.error what, after)) :
    after = s ∨ ∃ startY origin, EngagesAt s g map startY origin ∧
      after = { s with drag := .engaged startY origin } := by
  cases g with
  | pointerMove x y => exact followPointer_error h
  | wheel y delta modifier region =>
    obtain ⟨next, hnext⟩ := s.apply_wheel y delta modifier region map
    rw [hnext] at h
    exact Or.inl (applyWheel_error h)
  | pointerDown x y region => cases region <;> cases h
  | doubleClick region => cases region <;> cases h
  | pointerUp | pointerCancel | blur => cases h

/-! ## What was applied is not deferred -/

omit [Quantity α] in
theorem applyWheel_ok {next : Except MissingGeometry (Option (PriceRange α))}
    {effect : GestureEffect} {after : PriceScale α} (h : s.applyWheel next = (.ok effect, after)) :
    effect.deferred = false := by
  unfold applyWheel at h
  split at h <;> cases h <;> rfl

theorem followPointer_ok {x y : α} {effect : GestureEffect} {after : PriceScale α}
    (h : s.followPointer x y map = (.ok effect, after)) : effect.deferred = false := by
  have hstep := s.pointerStep x y map
  rw [h] at hstep
  cases hstep <;> rfl

theorem apply_ok {g : Gesture α} {effect : GestureEffect} {after : PriceScale α}
    (h : s.apply g map = (.ok effect, after)) : effect.deferred = false := by
  cases g with
  | pointerMove x y => exact followPointer_ok h
  | wheel y delta modifier region =>
    obtain ⟨next, hnext⟩ := s.apply_wheel y delta modifier region map
    rw [hnext] at h
    exact applyWheel_ok h
  | pointerDown x y region => cases region <;> cases h <;> rfl
  | doubleClick region => cases region <;> cases h <;> rfl
  | pointerUp | pointerCancel | blur =>
    cases h
    rfl

/-- A retry that has an effect defers nothing. -/
theorem retry_some {effect : GestureEffect} (h : (s.retry map).1 = some effect) :
    effect.deferred = false := by
  unfold retry at h
  cases hdeferred : s.deferred with
  | none =>
    rw [hdeferred] at h
    cases h
  | some g =>
    rw [hdeferred] at h
    dsimp only at h
    split at h <;> cases h
    rename_i happly
    exact apply_ok happly

/-! ## Deferral and retry -/

theorem handle_deferred {g : Gesture α} (h : (s.handle g map).1.deferred = true) :
    (s.handle g map).2 = { s with deferred := some g } ∨
      ∃ startY origin, EngagesAt s g map startY origin ∧
        (s.handle g map).2 = { s with deferred := some g, drag := .engaged startY origin } := by
  unfold handle at h ⊢
  cases happly : s.apply g map with
  | mk result after =>
    rw [happly] at h
    cases result with
    | ok effect =>
      rw [apply_ok happly] at h
      cases h
    | error what =>
      rcases apply_error happly with rfl | ⟨startY, origin, hengages, rfl⟩
      · exact Or.inl rfl
      · exact Or.inr ⟨startY, origin, hengages, rfl⟩

theorem retry_none (h : (s.retry map).1 = none) :
    (s.retry map).2 = { s with deferred := none } ∨
      ∃ g startY origin, s.deferred = some g ∧ EngagesAt s g map startY origin ∧
        (s.retry map).2 = { s with deferred := none, drag := .engaged startY origin } := by
  unfold retry at h ⊢
  cases hdeferred : s.deferred with
  | none =>
    left
    change s = { s with deferred := none }
    rw [← hdeferred]
  | some g =>
    rw [hdeferred] at h
    dsimp only at h ⊢
    cases happly : apply g map { s with deferred := none } with
    | mk result after =>
      rw [happly] at h
      cases result with
      | ok effect => cases h
      | error what =>
        rcases apply_error happly with rfl | ⟨startY, origin, hengages, rfl⟩
        · exact Or.inl rfl
        · exact Or.inr ⟨g, startY, origin, rfl, ⟨hengages.armed, hengages.shown, hengages.fails⟩, rfl⟩

/-- **Deferral.** A gesture that is deferred leaves only itself behind, and a retry that fails only
that it waits no more, unless the gesture is a move that engages a drag of a range which cannot
follow it. Then the drag is left engaged, and nothing else. -/
theorem deferral_leaves_no_more (s : PriceScale α) (g : Gesture α) (map : PriceMap α) :
    ((s.handle g map).1.deferred = true →
      (s.handle g map).2 = { s with deferred := some g } ∨
        ∃ startY origin, EngagesAt s g map startY origin ∧
          (s.handle g map).2 = { s with deferred := some g, drag := .engaged startY origin }) ∧
    ((s.retry map).1 = none →
      (s.retry map).2 = { s with deferred := none } ∨
        ∃ waiting startY origin, s.deferred = some waiting ∧
          EngagesAt s waiting map startY origin ∧
          (s.retry map).2 = { s with deferred := none, drag := .engaged startY origin }) :=
  ⟨handle_deferred, retry_none⟩

/-! ## A drag that cannot follow -/

/-- A press in a pane that shows prices up to a hundredth of the greatest double. -/
def pressedHigh : PriceScale Float :=
  { rules := ({} : Settings).gestures, auto := some ⟨0.0, 1e306⟩, drag := .armed 100.0 100.0 }

/-- The pointer goes far below the pane: the range would have to move beyond the greatest double. -/
def farBelow : Gesture Float := .pointerMove 100.0 100000.0

/-- A pane of 500 pixels, and one without a size. -/
def measuredPane : PriceMap Float := .linear (some 500.0) none

def unmeasuredPane : PriceMap Float := .linear none none

/-- Without a size nothing engages: the move waits, and is given up without a trace. -/
theorem deferral_of_farBelow :
    (pressedHigh.handle farBelow unmeasuredPane).1.deferred = true ∧
      (pressedHigh.handle farBelow unmeasuredPane).2 =
        { pressedHigh with deferred := some farBelow } ∧
      ((pressedHigh.handle farBelow unmeasuredPane).2.retry unmeasuredPane).1 = none ∧
      ((pressedHigh.handle farBelow unmeasuredPane).2.retry unmeasuredPane).2 = pressedHigh := by
  have hno : ∀ {s : PriceScale Float} {g : Gesture Float} {startY : Float}
      {origin : PriceRange Float}, ¬EngagesAt s g unmeasuredPane startY origin := by
    intro s g startY origin hengages
    obtain ⟨x, y, height, what, -, hheight, -⟩ := hengages.fails
    cases hheight
  have hdeferred : (pressedHigh.handle farBelow unmeasuredPane).1.deferred = true := by
    decide +kernel
  obtain hwaits | ⟨_, _, hengages, -⟩ :=
    (deferral_leaves_no_more pressedHigh farBelow unmeasuredPane).1 hdeferred
  · have hgiven :
        ((pressedHigh.handle farBelow unmeasuredPane).2.retry unmeasuredPane).1 = none := by
      decide +kernel
    obtain hretried | ⟨_, _, _, -, hengages, -⟩ :=
      (deferral_leaves_no_more (pressedHigh.handle farBelow unmeasuredPane).2 farBelow
        unmeasuredPane).2 hgiven
    · refine ⟨hdeferred, hwaits, hgiven, ?_⟩
      rw [hretried, hwaits]
      rfl
    · exact absurd hengages hno
  · exact absurd hengages hno

/-- **A deferral may engage.** In a pane of some size the move is deferred and leaves a drag engaged
that was only armed; so does a retry that fails. -/
theorem deferral_engages :
    ((pressedHigh.handle farBelow measuredPane).1.deferred = true ∧
      (pressedHigh.handle farBelow measuredPane).2.drag ≠ pressedHigh.drag) ∧
    ((({ pressedHigh with deferred := some farBelow } : PriceScale Float).retry measuredPane).1 =
        none ∧
      (({ pressedHigh with deferred := some farBelow } : PriceScale Float).retry
        measuredPane).2.drag ≠ pressedHigh.drag) := by
  decide +kernel

end ChartLayer.PriceScale
