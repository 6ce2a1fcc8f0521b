import ChartLayer.Proofs.Layer.Drawn
import ChartLayer.Proofs.Layer.Hand
import ChartLayer.Proofs.Price.Gestures

/-!
# The pan is off while a drag is engaged

A vertical drag owns the pointer, so the surface must not pan on its own as long as it lasts, and
has to pan again when it is over. `Layer.PanFollows` says that the pan is off exactly while a drag
is engaged. It survives every operation but two gestures (`Layer.slips`): a second press in the
middle of a drag leaves the pan off without a drag, and a move that engages a drag and is then
deferred leaves the pan on with one. Both really happen.

* `PanFollows.performLive`: one command that does not slip.
* `pan_off_iff_engaged`: any run in which none does.
* `pan_and_drag_apart`: a run for each of the two that do.
-/

namespace ChartLayer.Layer

/-! ## Which commands slip -/

/-- Whether the move of the pointer that waits makes drag and pan go apart. -/
def moveSlips (l : Layer MemorySurface) : Bool :=
  l.pointer.pending.any fun spot => l.scale.slips spot.toGesture (Surface.priceMap l.surface)

/-- Whether a gesture that is applied at once does, or the move before it. -/
def pressSlips (g : Gesture Float) (l : Layer MemorySurface) : Bool :=
  let ready := l.settleWheel
  ready.moveSlips ||
    ready.settlePointer.scale.slips g (Surface.priceMap ready.settlePointer.surface)

/-- Whether the retry of a frame does, or its move. -/
def frameSlips (l : Layer MemorySurface) : Bool :=
  l.scale.retrySlips (Surface.priceMap l.surface) || l.retryGesture.settleWheel.moveSlips

/-- Whether a command makes drag and pan go apart. -/
def slips (l : Layer MemorySurface) : Command → Bool
  | .gesture g => !g.comesInBursts && l.pressSlips g
  | .frame => l.frameSlips
  | _ => false

/-! ## The invariant -/

/-- The pan is off exactly while a drag is engaged. -/
def PanFollows (l : Layer MemorySurface) : Prop :=
  l.surface.panEnabled = !l.scale.drag.isEngaged

variable {l l' : Layer MemorySurface}

theorem PanFollows.of_keepsHand (h : PanFollows l) (hkeeps : KeepsHand l l') : PanFollows l' := by
  unfold PanFollows
  rw [hkeeps.pan, hkeeps.scale]
  exact h

/-- An effect that agrees with the drag takes the pan along. -/
theorem PanFollows.affected (h : PanFollows l) {scale : PriceScale Float} {effect : GestureEffect}
    (hagrees : PriceScale.Agrees l.scale effect scale) :
    PanFollows (({ l with scale } : Layer MemorySurface).affected effect) := by
  have hpan : effect.surfacePan.getD l.surface.panEnabled = !scale.drag.isEngaged := by
    rw [h]
    exact hagrees
  exact hpan

/-! ## Gestures -/

theorem PanFollows.passGesture (h : PanFollows l) {g : Gesture Float}
    (hsteady : l.scale.slips g (Surface.priceMap l.surface) = false) :
    PanFollows (l.passGesture g) :=
  (h.affected (PriceScale.agrees_handle hsteady)).of_keepsHand (keepsHand_carryOut _ _)

theorem PanFollows.settleWheel (h : PanFollows l) : PanFollows l.settleWheel := by
  have htaken : PanFollows { l with wheel := {} } := h
  rcases settleWheel_cases l with heq | ⟨turn, -, heq⟩ <;> rw [heq]
  · exact htaken
  · exact htaken.passGesture (PriceScale.slips_wheel _ _ _ _ _)

theorem PanFollows.settlePointer (h : PanFollows l) (hsteady : l.moveSlips = false) :
    PanFollows l.settlePointer := by
  have htaken : PanFollows { l with pointer := {} } := h
  rcases settlePointer_cases l with heq | ⟨spot, hpending, heq⟩ <;> rw [heq]
  · exact htaken
  · unfold moveSlips at hsteady
    rw [hpending] at hsteady
    exact htaken.passGesture hsteady

theorem PanFollows.askFrameIf (h : PanFollows l) (needed : Bool) :
    PanFollows (l.askFrameIf needed) := by
  cases needed <;> exact h

theorem PanFollows.pushPointer (h : PanFollows l) (spot : PointerSpot) :
    PanFollows (l.pushPointer spot) := by
  have hkept (pointer : Coalesced PointerSpot) : PanFollows { l with pointer } := h
  exact (hkept _).askFrameIf _

theorem PanFollows.pushWheel (h : PanFollows l) (turn : WheelTurn) :
    PanFollows (l.pushWheel turn) := by
  obtain ⟨ready, hready, heq⟩ := pushWheel_cases l turn
  have hfollows : PanFollows ready := by
    rcases hready with rfl | rfl
    · exact h
    · exact h.settleWheel
  have hkept (wheel : Coalesced WheelTurn) : PanFollows { ready with wheel } := hfollows
  rw [heq]
  exact (hkept _).askFrameIf _

theorem PanFollows.gesture (h : PanFollows l) {g : Gesture Float}
    (hsteady : l.slips (.gesture g) = false) : PanFollows (l.gesture g) := by
  cases hbursts : g.comesInBursts with
  | false =>
    rw [gesture_of_single l hbursts]
    have happlied : (!g.comesInBursts && l.pressSlips g) = false := hsteady
    rw [hbursts] at happlied
    obtain ⟨hmove, hpress⟩ := Bool.or_eq_false_iff.mp happlied
    exact (h.settleWheel.settlePointer hmove).passGesture hpress
  | true =>
    cases g with
    | pointerMove x y => exact h.pushPointer _
    | wheel y delta modifier region => exact h.pushWheel _
    | _ => cases hbursts

/-! ## Frames -/

theorem PanFollows.retryGesture (h : PanFollows l)
    (hsteady : l.scale.retrySlips (Surface.priceMap l.surface) = false) :
    PanFollows l.retryGesture := by
  have hagrees := PriceScale.agrees_retry hsteady
  have hready : PanFollows { l with gestureRetryDue := false } := h
  rcases retryGesture_cases l with ⟨-, heq⟩ | ⟨scale, rfl, ⟨hnone, heq⟩ | ⟨effect, heffect, heq⟩⟩
  · rw [heq]
    exact h
  · rw [heq]
    rw [hnone] at hagrees
    exact hready.affected hagrees
  · rw [heq]
    rw [heffect] at hagrees
    exact (hready.affected hagrees).of_keepsHand (keepsHand_carryOut _ _)

theorem PanFollows.settleLabels (h : PanFollows l) : PanFollows l.settleLabels := by
  have htaken : PanFollows { l with relayout := {} } := h
  exact htaken.of_keepsHand (keepsHand_settleLabels l)

theorem PanFollows.frame (h : PanFollows l) (hsteady : l.slips .frame = false) :
    PanFollows l.frame := by
  obtain ⟨hretry, hmove⟩ := Bool.or_eq_false_iff.mp hsteady
  exact ((h.retryGesture hretry).settleWheel.settlePointer hmove).settleLabels

/-! ## Any command -/

/-- Another dataset ends the drag and gives the pan back, whatever they were. -/
theorem panFollows_forgetDataset (l : Layer MemorySurface) : PanFollows l.forgetDataset := rfl

theorem panFollows_resetView (l : Layer MemorySurface) : PanFollows l.resetView := by
  let released : Layer MemorySurface :=
    { l with
      surface := Surface.fitTimes (Surface.invalidatePrices (Surface.enablePan true l.surface))
      scale := l.scale.dropDrag.2.release
      pointer := l.pointer.cancel }
  have hreleased : PanFollows released := rfl
  exact hreleased.of_keepsHand (keepsHand_scheduleLabels released)

theorem panFollows_dispose (l : Layer MemorySurface) : PanFollows l.dispose := rfl

theorem PanFollows.setBars (h : PanFollows l) (bars : List Bar) : PanFollows (l.setBars bars) := by
  cases hchanged : (l.bars.setBars bars).1.datasetChanged with
  | false => exact h.of_keepsHand (keepsHand_setBars l hchanged)
  | true => exact (panFollows_forgetDataset _).of_keepsHand (keepsHand_switch l hchanged)

theorem PanFollows.autoscale (h : PanFollows l) (base : Option (PriceRange Float)) :
    PanFollows (l.autoscale base).2 := by
  have hdrag : (l.scale.autoscale base).2.drag = l.scale.drag := by
    unfold PriceScale.autoscale
    split <;> rfl
  have hfollows : l.surface.panEnabled = !(l.scale.autoscale base).2.drag.isEngaged := by
    rw [hdrag]
    exact h
  exact hfollows

/-- **One command.** -/
theorem PanFollows.performLive (h : PanFollows l) {c : Command} (hsteady : l.slips c = false) :
    PanFollows (l.performLive c).2 := by
  cases hshows : c.onlyShows with
  | true => exact h.of_keepsHand (l.keepsHand_performLive hshows)
  | false =>
    cases c with
    | setBars bars => exact h.setBars bars
    | gesture g => exact h.gesture hsteady
    | resetView => exact panFollows_resetView l
    | autoscale base => exact h.autoscale base
    | frame => exact h.frame hsteady
    | dispose => exact panFollows_dispose l
    | _ => cases hshows

theorem PanFollows.performDisposed (h : PanFollows l) (c : Command) :
    PanFollows (l.performDisposed c).2 := by
  cases c <;> exact h

/-! ## Any run -/

/-- What can come of a layer on a surface that pans: the host gives commands that do not slip, sets
the clock, and does with its surface what it likes, except for the pan. A layer that has been
disposed takes any command. -/
inductive Handled : Layer MemorySurface → Prop
  | create {surface : MemorySurface} {settings : Settings} {l : Layer MemorySurface} :
      surface.panEnabled = true → create? surface settings = .ok l → Handled l
  | command {l : Layer MemorySurface} (c : Command) :
      Handled l → (!l.disposed && l.slips c) = false → Handled (l.step c)
  | clock {l : Layer MemorySurface} (now : Nat) : Handled l → Handled (l.setClock now)
  | host {l : Layer MemorySurface} {surface : MemorySurface} : Handled l →
      surface.panEnabled = l.surface.panEnabled → Handled { l with surface }

theorem panFollows_create {surface : MemorySurface} {settings : Settings}
    (hpan : surface.panEnabled = true) (hcreate : create? surface settings = .ok l) :
    PanFollows l := by
  rw [eq_fresh_of_create? hcreate]
  exact hpan

theorem Handled.panFollows (h : Handled l) : PanFollows l := by
  induction h with
  | create hpan hcreate => exact panFollows_create hpan hcreate
  | @command l c _ hsteady ih =>
    unfold step perform
    split
    · exact ih.performDisposed c
    · rename_i hlive
      rw [Bool.eq_false_iff.mpr hlive] at hsteady
      exact ih.performLive hsteady
  | clock now _ ih => exact ih
  | host _ hpan ih => exact hpan.trans ih

/-- **The pan is off exactly while a drag is engaged**, in every run in which no press comes in the
middle of a drag and no drag is engaged by a move that is then deferred. -/
theorem pan_off_iff_engaged (h : Handled l) :
    l.surface.panEnabled = false ↔ l.scale.drag.isEngaged = true := by
  rw [h.panFollows]
  exact iff_of_eq (Bool.not_eq_false' _)

/-- The series ask for a range, and the pointer goes down on the plot. -/
def pressed : Layer MemorySurface :=
  let measured : Layer MemorySurface := { untouched with surface := .ofSize 800.0 500.0 }
  measured.run [.autoscale (some ⟨90.0, 110.0⟩), .gesture (.pointerDown 100.0 100.0 .plot)]

/-- Then the pointer goes 50 pixels down. -/
def dragging : Layer MemorySurface :=
  pressed.run [.gesture (.pointerMove 100.0 150.0), .frame]

theorem pan_off_iff_engaged_of_dragging :
    Handled dragging ∧ dragging.scale.drag.isEngaged = true ∧
      (dragging.surface.panEnabled = false ↔ dragging.scale.drag.isEngaged = true) := by
  have hmeasured : Handled { untouched with surface := .ofSize 800.0 500.0 } :=
    (Handled.create rfl create?_untouched).host rfl
  have hpressed : Handled pressed :=
    (hmeasured.command _ (by decide +kernel)).command _ (by decide +kernel)
  have hdragging : Handled dragging :=
    (hpressed.command _ (by decide +kernel)).command _ (by decide +kernel)
  exact ⟨hdragging, by decide +kernel, pan_off_iff_engaged hdragging⟩

/-- **Drag and pan go apart.** A second press in the middle of a drag leaves the pan off without a
drag; a move out of all bounds leaves it on with one. -/
theorem pan_and_drag_apart :
    let pressedAgain := dragging.step (.gesture (.pointerDown 100.0 150.0 .plot))
    let movedFar := pressed.run [.gesture (.pointerMove 100.0 positiveInfinity), .frame]
    (pressedAgain.surface.panEnabled = false ∧ pressedAgain.scale.drag.isEngaged = false) ∧
      (movedFar.surface.panEnabled = true ∧ movedFar.scale.drag.isEngaged = true) := by
  decide +kernel

end ChartLayer.Layer
