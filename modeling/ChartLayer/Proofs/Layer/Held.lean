import ChartLayer.Layer.Command

/-!
# Gestures that wait

A gesture can wait in three places: a turn of the wheel and a move of the pointer in a task each,
and one that lacked geometry in the price scale. `Layer.Held` is what they could change and where
they wait; whatever the surface is, nothing but a gesture that is passed on touches it.

A frame, and a gesture that is not one of many, first pass on what waits: each of these steps has
the cases that it can take here, and leaves its own task empty.
-/

namespace ChartLayer.Layer

variable {σ : Type}

/-- What a gesture that waits could change, and where it could wait. -/
structure Held where
  scale : PriceScale Float
  wheel : Coalesced WheelTurn
  pointer : Coalesced PointerSpot

def held (l : Layer σ) : Held := ⟨l.scale, l.wheel, l.pointer⟩

variable [Surface σ] (l : Layer σ)

/-! ## What leaves it alone -/

theorem held_askFrameIf (needed : Bool) : (l.askFrameIf needed).held = l.held := by
  cases needed <;> rfl

theorem held_scheduleLabels : l.scheduleLabels.held = l.held := held_askFrameIf _ _

theorem held_carryOut (effect : GestureEffect) : (l.carryOut effect).held = l.held := by
  obtain ⟨rangeChanged, surfacePan, resyncTimeAxis, deferred⟩ := effect
  unfold carryOut
  cases rangeChanged <;> cases surfacePan <;> cases resyncTimeAxis <;> cases deferred <;>
    first | rfl | exact (held_scheduleLabels _).trans rfl

theorem held_settleLabels : l.settleLabels.held = l.held := by
  unfold settleLabels
  split
  · rfl
  · dsimp only
    split
    · unfold showLabels
      split
      · rfl
      · split
        · rfl
        · exact held_scheduleLabels _
    · rfl

/-- A layer that has ended holds what it held. -/
theorem held_step_of_disposed {l : Layer σ} (h : l.disposed = true) (c : Command) :
    (l.step c).held = l.held := by
  unfold step perform
  rw [if_pos h]
  cases c <;> rfl

/-! ## What passes a gesture on -/

theorem held_passGesture (g : Gesture Float) :
    (l.passGesture g).held =
      ⟨(l.scale.handle g (Surface.priceMap l.surface)).2, l.wheel, l.pointer⟩ :=
  held_carryOut _ _

theorem gesture_of_single {g : Gesture Float} (h : g.comesInBursts = false) :
    l.gesture g = l.settleWheel.settlePointer.passGesture g := by
  cases g <;> first | rfl | cases h

/-- A turn of the wheel that waits is taken and passed on. -/
theorem settleWheel_cases :
    l.settleWheel = { l with wheel := {} } ∨
      ∃ turn, l.wheel.pending = some turn ∧
        l.settleWheel = ({ l with wheel := {} } : Layer _).passGesture turn.toGesture := by
  unfold settleWheel Coalesced.take
  cases l.wheel.pending with
  | none => exact Or.inl rfl
  | some turn => exact Or.inr ⟨turn, rfl, rfl⟩

/-- A move of the pointer that waits is taken and passed on. -/
theorem settlePointer_cases :
    l.settlePointer = { l with pointer := {} } ∨
      ∃ spot, l.pointer.pending = some spot ∧
        l.settlePointer = ({ l with pointer := {} } : Layer _).passGesture spot.toGesture := by
  unfold settlePointer Coalesced.take
  cases l.pointer.pending with
  | none => exact Or.inl rfl
  | some spot => exact Or.inr ⟨spot, rfl, rfl⟩

theorem settleWheel_of_none {l : Layer σ} (h : l.wheel.pending = none) :
    l.settleWheel = { l with wheel := {} } := by
  rcases settleWheel_cases l with heq | ⟨turn, hpending, -⟩
  · exact heq
  · rw [h] at hpending
    cases hpending

theorem settlePointer_of_none {l : Layer σ} (h : l.pointer.pending = none) :
    l.settlePointer = { l with pointer := {} } := by
  rcases settlePointer_cases l with heq | ⟨spot, hpending, -⟩
  · exact heq
  · rw [h] at hpending
    cases hpending

/-- A turn of the wheel joins the one that waits, or waits alone once that has been passed on. -/
theorem pushWheel_cases (turn : WheelTurn) :
    ∃ ready, (ready = l ∨ ready = l.settleWheel) ∧
      l.pushWheel turn =
        ({ ready with wheel := (ready.wheel.accumulate WheelTurn.merge turn).2 } : Layer _).askFrameIf
          (ready.wheel.accumulate WheelTurn.merge turn).1 := by
  unfold pushWheel
  cases l.wheel.pending.any fun w => !w.sameTarget turn with
  | false => exact ⟨l, Or.inl rfl, rfl⟩
  | true => exact ⟨l.settleWheel, Or.inr rfl, rfl⟩

/-- The retry that is due is made; it has an effect, or the gesture is given up. -/
theorem retryGesture_cases :
    (l.gestureRetryDue = false ∧ l.retryGesture = l) ∨
      ∃ scale, scale = (l.scale.retry (Surface.priceMap l.surface)).2 ∧
        ((l.scale.retry (Surface.priceMap l.surface)).1 = none ∧
            l.retryGesture = { l with gestureRetryDue := false, scale } ∨
          ∃ effect, (l.scale.retry (Surface.priceMap l.surface)).1 = some effect ∧
            l.retryGesture =
              ({ l with gestureRetryDue := false, scale } : Layer _).carryOut effect) := by
  unfold retryGesture
  cases l.gestureRetryDue with
  | false => exact Or.inl ⟨rfl, rfl⟩
  | true =>
    refine Or.inr ⟨_, rfl, ?_⟩
    dsimp only
    rw [if_pos rfl]
    split <;> rename_i heq <;> rw [heq]
    · exact Or.inr ⟨_, rfl, rfl⟩
    · exact Or.inl ⟨rfl, rfl⟩

/-- A retry leaves the gestures that wait for a frame. -/
theorem tasks_retryGesture :
    l.retryGesture.wheel = l.wheel ∧ l.retryGesture.pointer = l.pointer := by
  rcases retryGesture_cases l with ⟨-, heq⟩ | ⟨scale, -, ⟨-, heq⟩ | ⟨effect, -, heq⟩⟩ <;> rw [heq]
  · exact ⟨rfl, rfl⟩
  · exact ⟨rfl, rfl⟩
  · have hheld := held_carryOut ({ l with gestureRetryDue := false, scale } : Layer σ) effect
    exact ⟨congrArg Held.wheel hheld, congrArg Held.pointer hheld⟩

/-! ## What is empty then -/

theorem wheel_settleWheel : l.settleWheel.wheel = {} := by
  rcases settleWheel_cases l with heq | ⟨turn, -, heq⟩ <;> rw [heq]
  exact congrArg Held.wheel (held_passGesture _ _)

theorem wheel_settlePointer : l.settlePointer.wheel = l.wheel := by
  rcases settlePointer_cases l with heq | ⟨spot, -, heq⟩ <;> rw [heq]
  exact congrArg Held.wheel (held_passGesture _ _)

theorem pointer_settlePointer : l.settlePointer.pointer = {} := by
  rcases settlePointer_cases l with heq | ⟨spot, -, heq⟩ <;> rw [heq]
  exact congrArg Held.pointer (held_passGesture _ _)

end ChartLayer.Layer
