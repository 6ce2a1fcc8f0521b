import ChartLayer.Layer.Offscreen
import ChartLayer.Proofs.Layer.Drawn
import ChartLayer.Proofs.Layer.Hand
import ChartLayer.Proofs.Price.Gestures

/-!
# No lost wake-up

A layer does nothing by itself: what waits for the next frame is lost if no frame comes. Each of the
three tasks remembers that it has asked for a frame and does not ask again, so the memory must not
outlive the request. `Layer.Attended` are the runs in which the host takes a request only to run the
frame, `Layer.Awake` is the invariant.

In the middle of a frame the request is gone and the invariant is not there. What is left of it then
is that a gesture without geometry is due; each task is emptied before its work is done, so all that
is pushed anew asks.

* `awake_frame`, `Awake.performLive`: one command.
* `Attended.awake`, `no_lost_wakeup`: any run.
-/

namespace ChartLayer.Layer

/-! ## The invariant -/

/-- A gesture that waits for geometry is due, and a frame has been asked for it. -/
structure RetryAsked (l : Layer MemorySurface) : Prop where
  due : l.scale.deferred.isSome = true → l.gestureRetryDue = true
  coming : l.gestureRetryDue = true → l.surface.framePending = true

/-- All that waits has asked for a frame that is still to come. -/
structure Awake (l : Layer MemorySurface) : Prop extends RetryAsked l where
  wheel : l.wheel.Awaited l.surface.framePending
  pointer : l.pointer.Awaited l.surface.framePending
  relayout : l.relayout.Awaited l.surface.framePending

variable {l l' : Layer MemorySurface}

theorem RetryAsked.of_keepsHand (h : RetryAsked l) (hkeeps : KeepsHand l l') : RetryAsked l' where
  due := by rw [hkeeps.scale, hkeeps.retryDue]; exact h.due
  coming hdue := by rw [hkeeps.retryDue] at hdue; exact hkeeps.frame (h.coming hdue)

theorem Awake.of_keepsHand (h : Awake l) (hkeeps : KeepsHand l l') : Awake l' where
  toRetryAsked := h.toRetryAsked.of_keepsHand hkeeps
  wheel := by rw [hkeeps.wheel]; exact h.wheel.mono hkeeps.frame
  pointer := by rw [hkeeps.pointer]; exact h.pointer.mono hkeeps.frame
  relayout := hkeeps.relayout h.relayout

/-- Nothing waits. -/
theorem awake_of_idle (hdeferred : l.scale.deferred = none) (hretry : l.gestureRetryDue = false)
    (hwheel : l.wheel = {}) (hpointer : l.pointer = {}) (hrelayout : l.relayout = {}) :
    Awake l where
  due h := by rw [hdeferred] at h; cases h
  coming h := by rw [hretry] at h; cases h
  wheel := by rw [hwheel]; exact Coalesced.awaited_empty _
  pointer := by rw [hpointer]; exact Coalesced.awaited_empty _
  relayout := by rw [hrelayout]; exact Coalesced.awaited_empty _

/-! ## Gestures -/

variable (l) in
/-- A gesture on its way through the price scale: what its effect means for the hand. -/
theorem keepsHand_passGesture (g : Gesture Float) :
    KeepsHand
      (({ l with scale := (l.scale.handle g (Surface.priceMap l.surface)).2 } : Layer _).affected
        (l.scale.handle g (Surface.priceMap l.surface)).1)
      (l.passGesture g) :=
  keepsHand_carryOut _ _

theorem RetryAsked.affected (h : RetryAsked l) {scale : PriceScale Float} {effect : GestureEffect}
    (hscale : effect.deferred = true ∨ scale.deferred = l.scale.deferred) :
    RetryAsked (({ l with scale } : Layer MemorySurface).affected effect) where
  due hdeferred := by
    change (effect.deferred || l.gestureRetryDue) = true
    rcases hscale with heffect | hkept
    · rw [heffect, Bool.true_or]
    · have hwaits : l.scale.deferred.isSome = true := hkept ▸ hdeferred
      rw [h.due hwaits, Bool.or_true]
  coming hdue := by
    rcases (Bool.or_eq_true _ _).mp hdue with heffect | hold
    · exact (Bool.or_eq_true _ _).mpr (Or.inl heffect)
    · exact (Bool.or_eq_true _ _).mpr (Or.inr (h.coming hold))

theorem RetryAsked.passGesture (h : RetryAsked l) (g : Gesture Float) :
    RetryAsked (l.passGesture g) :=
  (h.affected (l.scale.deferred_handle g _)).of_keepsHand (keepsHand_passGesture l g)

theorem Awake.passGesture (h : Awake l) (g : Gesture Float) : Awake (l.passGesture g) := by
  refine Awake.of_keepsHand ?_ (keepsHand_passGesture l g)
  exact
    { toRetryAsked := h.toRetryAsked.affected (l.scale.deferred_handle g _)
      wheel := h.wheel.or _
      pointer := h.pointer.or _
      relayout := h.relayout.or _ }

/-! ## What waited is done -/

theorem RetryAsked.settleWheel (h : RetryAsked l) : RetryAsked l.settleWheel := by
  have htaken : RetryAsked { l with wheel := {} } := ⟨h.due, h.coming⟩
  rcases settleWheel_cases l with heq | ⟨turn, -, heq⟩ <;> rw [heq]
  · exact htaken
  · exact htaken.passGesture _

theorem RetryAsked.settlePointer (h : RetryAsked l) : RetryAsked l.settlePointer := by
  have htaken : RetryAsked { l with pointer := {} } := ⟨h.due, h.coming⟩
  rcases settlePointer_cases l with heq | ⟨spot, -, heq⟩ <;> rw [heq]
  · exact htaken
  · exact htaken.passGesture _

theorem Awake.settleWheel (h : Awake l) : Awake l.settleWheel := by
  have htaken : Awake { l with wheel := {} } :=
    { due := h.due
      coming := h.coming
      wheel := Coalesced.awaited_empty _
      pointer := h.pointer
      relayout := h.relayout }
  rcases settleWheel_cases l with heq | ⟨turn, -, heq⟩ <;> rw [heq]
  · exact htaken
  · exact htaken.passGesture _

theorem Awake.settlePointer (h : Awake l) : Awake l.settlePointer := by
  have htaken : Awake { l with pointer := {} } :=
    { due := h.due
      coming := h.coming
      wheel := h.wheel
      pointer := Coalesced.awaited_empty _
      relayout := h.relayout }
  rcases settlePointer_cases l with heq | ⟨spot, -, heq⟩ <;> rw [heq]
  · exact htaken
  · exact htaken.passGesture _

/-! ## What begins to wait -/

theorem awake_askFrameIf {needed : Bool} (h : RetryAsked l)
    (hwheel : l.wheel.Awaited (needed || l.surface.framePending))
    (hpointer : l.pointer.Awaited (needed || l.surface.framePending))
    (hrelayout : l.relayout.Awaited (needed || l.surface.framePending)) :
    Awake (l.askFrameIf needed) := by
  cases needed with
  | false => exact ⟨h, hwheel, hpointer, hrelayout⟩
  | true => exact ⟨⟨h.due, fun _ => rfl⟩, hwheel, hpointer, hrelayout⟩

theorem Awake.pushPointer (h : Awake l) (spot : PointerSpot) : Awake (l.pushPointer spot) :=
  awake_askFrameIf ⟨h.due, h.coming⟩ (h.wheel.or _) (h.pointer.push spot) (h.relayout.or _)

theorem Awake.pushWheel (h : Awake l) (turn : WheelTurn) : Awake (l.pushWheel turn) := by
  obtain ⟨ready, hready, heq⟩ := pushWheel_cases l turn
  have hawake : Awake ready := by
    rcases hready with rfl | rfl
    · exact h
    · exact h.settleWheel
  rw [heq]
  exact awake_askFrameIf ⟨hawake.due, hawake.coming⟩
    (hawake.wheel.accumulate WheelTurn.merge turn) (hawake.pointer.or _) (hawake.relayout.or _)

theorem Awake.gesture (h : Awake l) (g : Gesture Float) : Awake (l.gesture g) := by
  cases g with
  | pointerMove x y => exact h.pushPointer ⟨x, y⟩
  | wheel y delta modifier region => exact h.pushWheel ⟨y, delta, modifier, region⟩
  | pointerDown | pointerUp | pointerCancel | blur | doubleClick =>
    rw [gesture_of_single l rfl]
    exact h.settleWheel.settlePointer.passGesture _

/-! ## Frames -/

/-- A frame in which a retry is due gives the gesture up, or its effect asks for another frame. -/
theorem retryAsked_retryGesture (h : l.scale.deferred.isSome = true → l.gestureRetryDue = true) :
    RetryAsked l.retryGesture := by
  rcases retryGesture_cases l with ⟨hdue, heq⟩ | ⟨scale, hscale, hretried⟩
  · rw [heq]
    exact { due := h, coming := fun hdue' => absurd (hdue.symm.trans hdue') Bool.false_ne_true }
  · have hnone : scale.deferred = none := by
      rw [hscale]
      exact l.scale.deferred_retry _
    have hready : RetryAsked { l with gestureRetryDue := false, scale } :=
      { due := fun hdeferred => by
          change scale.deferred.isSome = true at hdeferred
          rw [hnone] at hdeferred
          cases hdeferred
        coming := fun hdue => nomatch hdue }
    rcases hretried with ⟨-, heq⟩ | ⟨effect, -, heq⟩ <;> rw [heq]
    · exact hready
    · exact (hready.affected (Or.inr rfl)).of_keepsHand (keepsHand_carryOut _ _)

/-- **A frame.** The request for it is gone, and all that waited is done. -/
theorem awake_frame (h : l.scale.deferred.isSome = true → l.gestureRetryDue = true) :
    Awake l.frame := by
  have hretry := (retryAsked_retryGesture h).settleWheel.settlePointer
  refine Awake.of_keepsHand ?_ (keepsHand_settleLabels _)
  exact
    { due := hretry.due
      coming := hretry.coming
      wheel := by
        change Coalesced.Awaited _ l.retryGesture.settleWheel.settlePointer.wheel
        rw [wheel_settlePointer, wheel_settleWheel]
        exact Coalesced.awaited_empty _
      pointer := by
        change Coalesced.Awaited _ l.retryGesture.settleWheel.settlePointer.pointer
        rw [pointer_settlePointer]
        exact Coalesced.awaited_empty _
      relayout := Coalesced.awaited_empty _ }

/-! ## Any command -/

theorem awake_forgetDataset (h : Awake l) : Awake l.forgetDataset where
  due hdeferred := nomatch hdeferred
  coming hdue := nomatch hdue
  wheel := by
    rw [framePending_forgetDataset]
    exact h.wheel.cancel
  pointer := by
    rw [framePending_forgetDataset]
    exact h.pointer.cancel
  relayout := by
    rw [framePending_forgetDataset]
    exact h.relayout

theorem Awake.setBars (h : Awake l) (bars : List Bar) : Awake (l.setBars bars) := by
  cases hchanged : (l.bars.setBars bars).1.datasetChanged with
  | false => exact h.of_keepsHand (keepsHand_setBars l hchanged)
  | true =>
    have htaken : Awake (l.takeBars bars) := h.of_keepsHand (.of_eq rfl)
    exact (awake_forgetDataset htaken).of_keepsHand (keepsHand_switch l hchanged)

/-- The frame that a canceled move has asked for comes all the same. -/
theorem Awake.resetView (h : Awake l) : Awake l.resetView := by
  refine Awake.of_keepsHand ?_ (keepsHand_scheduleLabels _)
  exact ⟨⟨h.due, h.coming⟩, h.wheel, h.pointer.cancel, h.relayout⟩

theorem Awake.autoscale (h : Awake l) (base : Option (PriceRange Float)) :
    Awake (l.autoscale base).2 := by
  have hdeferred : (l.scale.autoscale base).2.deferred = l.scale.deferred := by
    unfold PriceScale.autoscale
    split <;> rfl
  refine ⟨⟨fun hwaits => h.due ?_, h.coming⟩, h.wheel, h.pointer, h.relayout⟩
  rwa [← hdeferred]

/-- **One command.** -/
theorem Awake.performLive (h : Awake l) {c : Command} (hc : c ≠ .dispose) :
    Awake (l.performLive c).2 := by
  cases hshows : c.onlyShows with
  | true => exact h.of_keepsHand (l.keepsHand_performLive hshows)
  | false =>
    cases c with
    | setBars bars => exact h.setBars bars
    | gesture g => exact h.gesture g
    | resetView => exact h.resetView
    | autoscale base => exact h.autoscale base
    | frame => exact awake_frame h.due
    | dispose => exact absurd rfl hc
    | _ => cases hshows

/-! ## Any run -/

/-- What can come of a layer whose requests for frames are answered: the host gives commands, sets
the clock, takes a request to run the frame and for nothing else, and does with its surface what it
likes, except that it calls no frame off. -/
inductive Attended : Layer MemorySurface → Prop
  | create {surface : MemorySurface} {settings : Settings} {l : Layer MemorySurface} :
      create? surface settings = .ok l → Attended l
  | command {l : Layer MemorySurface} (c : Command) : Attended l → Attended (l.step c)
  | answer {l : Layer MemorySurface} :
      Attended l → Attended ({ l with surface := l.surface.takeFrame.2 }.step .frame)
  | clock {l : Layer MemorySurface} (now : Nat) : Attended l → Attended (l.setClock now)
  | host {l : Layer MemorySurface} {surface : MemorySurface} : Attended l →
      (l.surface.framePending = true → surface.framePending = true) → Attended { l with surface }

/-- Running the frames that are asked for is such a run. -/
theorem Attended.runFrames (h : Attended l) (most : Nat) : Attended (l.runFrames most).2 := by
  induction most generalizing l with
  | zero => exact h
  | succ most ih =>
    unfold Layer.runFrames
    split <;> rename_i heq
    · exact h
    · have htaken : l.surface.takeFrame.2 = _ := congrArg Prod.snd heq
      dsimp only at htaken ⊢
      rw [← htaken]
      exact ih h.answer

/-- A layer that was just made has nothing to do. -/
theorem awake_create {surface : MemorySurface} {settings : Settings}
    (h : create? surface settings = .ok l) : Awake l := by
  rw [eq_fresh_of_create? h]
  exact awake_of_idle rfl rfl rfl rfl rfl

theorem Attended.awake (h : Attended l) (hlive : l.disposed = false) : Awake l := by
  induction h with
  | create hcreate => exact awake_create hcreate
  | @command l c _ ih =>
    have hbefore := live_of_step hlive
    rw [step_of_live hbefore] at hlive ⊢
    refine (ih hbefore).performLive ?_
    rintro rfl
    cases hlive
  | @answer l _ ih =>
    have hbefore : ({ l with surface := l.surface.takeFrame.2 } : Layer _).disposed = false :=
      live_of_step hlive
    rw [step_of_live hbefore]
    -- without the request only `due` is left of the invariant, and a frame needs no more
    exact awake_frame (ih hbefore).due
  | clock now _ ih =>
    exact (ih hlive).of_keepsHand (.of_eq rfl)
  | host _ hframe ih =>
    have hawake := ih hlive
    exact ⟨⟨hawake.due, hframe ∘ hawake.coming⟩, hawake.wheel.mono hframe,
      hawake.pointer.mono hframe, hawake.relayout.mono hframe⟩

/-- **No lost wake-up.** Until its end, in every run in which a request for a frame is taken only to
run the frame, a layer for which a turn of the wheel, a move of the pointer, a placing of the labels
or a gesture without geometry waits has a frame to come, and such a gesture is due to be retried in
it. -/
theorem no_lost_wakeup (h : Attended l) (hlive : l.disposed = false) :
    (l.wheel.pending.isSome = true ∨ l.pointer.pending.isSome = true ∨
        l.relayout.pending.isSome = true ∨ l.scale.deferred.isSome = true →
      l.surface.framePending = true) ∧
      (l.scale.deferred.isSome = true → l.gestureRetryDue = true) := by
  have hawake := h.awake hlive
  refine ⟨?_, hawake.due⟩
  rintro (hwheel | hpointer | hrelayout | hdeferred)
  · exact hawake.wheel.coming (hawake.wheel.asked hwheel)
  · exact hawake.pointer.coming (hawake.pointer.asked hpointer)
  · exact hawake.relayout.coming (hawake.relayout.asked hrelayout)
  · exact hawake.coming (hawake.due hdeferred)

/-- On a surface without geometry the wheel is deferred in its frame; then the pointer moves. -/
def wheelBeforeLayout : Layer MemorySurface :=
  let turned := untouched.step (.gesture (.wheel 40.0 120.0 false .priceAxis))
  (turned.runFrames 1).2.step (.gesture (.pointerMove 5.0 6.0))

theorem no_lost_wakeup_before_layout :
    Attended wheelBeforeLayout ∧ wheelBeforeLayout.disposed = false ∧
      wheelBeforeLayout.scale.deferred.isSome = true ∧
      wheelBeforeLayout.pointer.pending.isSome = true ∧
      (wheelBeforeLayout.wheel.pending.isSome = true ∨
          wheelBeforeLayout.pointer.pending.isSome = true ∨
          wheelBeforeLayout.relayout.pending.isSome = true ∨
          wheelBeforeLayout.scale.deferred.isSome = true →
        wheelBeforeLayout.surface.framePending = true) ∧
      (wheelBeforeLayout.scale.deferred.isSome = true →
        wheelBeforeLayout.gestureRetryDue = true) := by
  have hattended : Attended wheelBeforeLayout :=
    (((Attended.create create?_untouched).command _).runFrames 1).command _
  have hlive : wheelBeforeLayout.disposed = false := by decide +kernel
  exact ⟨hattended, hlive, by decide +kernel, by decide +kernel, no_lost_wakeup hattended hlive⟩

end ChartLayer.Layer
