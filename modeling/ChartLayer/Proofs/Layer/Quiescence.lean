import ChartLayer.Proofs.Layer.Relayout
import ChartLayer.Proofs.Layer.Reset
import ChartLayer.Proofs.Layer.Wakeup
import ChartLayer.Proofs.Price.Deferral

/-!
# The frames run out

A frame can ask for the next one: a gesture that it passes on may lack geometry, a range that
changes has the labels placed anew, and labels that cannot be placed are tried once more. None of
this goes on for ever. Gestures are passed on in the first frame, the retry of one is never deferred
again, and labels are tried twice. `framesLeft` counts the frames that can still come of what waits.

* `seen_frame`: after any frame no gesture waits for one, and labels that wait do so for the second
  time.
* `framesLeft_answered`: a frame that is run leaves fewer frames to come.
* `length_runFrames`: so a run of frames ends.
* `quiesces`: and when it ends, after three frames at most, nothing is left to do.
-/

namespace ChartLayer.Layer

/-! ## One frame -/

section

variable {σ : Type}

/-- No gesture waits for a frame, and labels that wait have been tried before. -/
def seen (l : Layer σ) : Bool :=
  l.wheel.pending.isNone && l.pointer.pending.isNone &&
    (l.relayout.pending.isNone || l.labelRetryUsed)

theorem seen_iff {l : Layer σ} :
    l.seen = true ↔ l.wheel.pending = none ∧ l.pointer.pending = none ∧
      (l.relayout.pending ≠ none → l.labelRetryUsed = true) := by
  simp only [seen, Bool.and_eq_true, Bool.or_eq_true, Option.isNone_iff_eq_none, and_assoc,
    ne_eq, Decidable.imp_iff_not_or, Decidable.not_not]

variable [Surface σ] {l : Layer σ}

theorem seen_frame (l : Layer σ) : l.frame.seen = true := by
  have hheld : l.frame.held = l.retryGesture.settleWheel.settlePointer.held :=
    held_settleLabels _
  have hwheel : l.frame.wheel = {} :=
    (congrArg Held.wheel hheld).trans ((wheel_settlePointer _).trans (wheel_settleWheel _))
  have hpointer : l.frame.pointer = {} :=
    (congrArg Held.pointer hheld).trans (pointer_settlePointer _)
  refine seen_iff.mpr ⟨?_, ?_, retryUsed_of_pending⟩
  · rw [hwheel]
  · rw [hpointer]

/-- A frame that has no gesture to pass on. -/
theorem frame_of_seen (h : l.seen = true) :
    l.frame = ({ l.retryGesture with wheel := {}, pointer := {} } : Layer σ).settleLabels := by
  obtain ⟨hwheel, hpointer, -⟩ := seen_iff.mp h
  obtain ⟨hwheel', hpointer'⟩ := tasks_retryGesture l
  have hnoWheel : l.retryGesture.wheel.pending = none := by rw [hwheel', hwheel]
  have hnoPointer : l.retryGesture.pointer.pending = none := by rw [hpointer', hpointer]
  unfold frame
  rw [settleWheel_of_none hnoWheel,
    settlePointer_of_none (l := { l.retryGesture with wheel := {} }) hnoPointer]

end

variable {l : Layer MemorySurface}

/-- The retry of a gesture is the last one: it is never deferred again. -/
theorem retryDue_retryGesture (l : Layer MemorySurface) :
    l.retryGesture.gestureRetryDue = false := by
  rcases retryGesture_cases l with ⟨hdue, heq⟩ | ⟨scale, -, ⟨-, heq⟩ | ⟨effect, heffect, heq⟩⟩ <;>
    rw [heq]
  · exact hdue
  · have hkeeps := keepsHand_carryOut
      ({ l with gestureRetryDue := false, scale } : Layer MemorySurface) effect
    rw [hkeeps.retryDue]
    change (effect.deferred || false) = false
    rw [PriceScale.retry_some heffect, Bool.or_false]

theorem retryDue_frame (h : l.seen = true) : l.frame.gestureRetryDue = false := by
  rw [frame_of_seen h, (keepsHand_settleLabels _).retryDue]
  exact retryDue_retryGesture l

/-- Labels that have been tried before do not ask for a frame again. -/
theorem framePending_settleLabels (h : l.relayout.pending ≠ none → l.labelRetryUsed = true) :
    l.settleLabels.surface.framePending = l.surface.framePending := by
  have hstep := labelStep l
  generalize l.settleLabels = after, l.labelAttempt? = attempt at hstep
  cases hstep with
  | postponed hpending hfirst =>
    have hused := h (by rw [hpending]; exact Option.some_ne_none _)
    rw [hused] at hfirst
    cases hfirst
  | idle | outdated | placed | abandoned => rfl

/-- A frame with nothing new to do asks for no other. -/
theorem framePending_frame (h : l.seen = true) (hdue : l.gestureRetryDue = false) :
    l.frame.surface.framePending = l.surface.framePending := by
  have hretry : l.retryGesture = l := by
    unfold retryGesture
    rw [hdue]
    rfl
  rw [frame_of_seen h, hretry]
  exact framePending_settleLabels (l := { l with wheel := {}, pointer := {} }) (seen_iff.mp h).2.2

/-! ## The frames that are left -/

/-- How many frames can still come of what waits, if the host does no more than run them. -/
def framesLeft (l : Layer MemorySurface) : Nat :=
  if l.surface.framePending then
    if l.seen then
      if l.gestureRetryDue then 2 else 1
    else 3
  else 0

theorem framesLeft_le (l : Layer MemorySurface) : l.framesLeft ≤ 3 := by
  unfold framesLeft
  split_ifs <;> omega

theorem framesLeft_pos : 0 < l.framesLeft ↔ l.surface.framePending = true := by
  unfold framesLeft
  split_ifs <;> simp_all

theorem framesLeft_of_quiet (h : l.surface.framePending = false) : l.framesLeft = 0 := by
  simp [framesLeft, h]

/-- What has been seen by a frame needs two more at most: one for a gesture to be retried, and one
for the labels that the retry schedules. -/
theorem framesLeft_of_seen (h : l.seen = true) : l.framesLeft ≤ 2 := by
  simp only [framesLeft, h, if_true]
  split_ifs <;> omega

theorem framesLeft_of_notDue (h : l.seen = true) (hdue : l.gestureRetryDue = false) :
    l.framesLeft ≤ 1 := by
  simp only [framesLeft, h, hdue, if_true, Bool.false_eq_true, if_false]
  split_ifs <;> omega

/-- The layer after the frame that it has asked for. -/
def answered (l : Layer MemorySurface) : Layer MemorySurface :=
  { l with surface := l.surface.takeFrame.2 }.step .frame

/-- A layer that has ended asks for no frame again. -/
theorem framesLeft_answered_of_disposed (hdisposed : l.disposed = true) :
    l.answered.framesLeft = 0 := by
  let taken : Layer MemorySurface := { l with surface := l.surface.takeFrame.2 }
  have hidle : l.answered = taken := by
    unfold answered step perform
    rw [if_pos (show taken.disposed = true from hdisposed)]
    rfl
  rw [hidle]
  exact framesLeft_of_quiet (l := taken) rfl

/-- **One frame.** It leaves fewer frames to come. -/
theorem framesLeft_answered (h : l.surface.framePending = true) :
    l.answered.framesLeft < l.framesLeft := by
  let taken : Layer MemorySurface := { l with surface := l.surface.takeFrame.2 }
  cases hdisposed : l.disposed with
  | true =>
    rw [framesLeft_answered_of_disposed hdisposed]
    exact framesLeft_pos.mpr h
  | false =>
    have hframe : l.answered = taken.frame := step_of_live (l := taken) hdisposed _
    have hseen : taken.frame.seen = true := seen_frame taken
    rw [hframe]
    cases hbefore : l.seen with
    | false =>
      have hthree : l.framesLeft = 3 := by simp [framesLeft, h, hbefore]
      rw [hthree]
      exact Nat.lt_succ_of_le (framesLeft_of_seen hseen)
    | true =>
      cases hdue : l.gestureRetryDue with
      | true =>
        have htwo : l.framesLeft = 2 := by simp [framesLeft, h, hbefore, hdue]
        have hretried : taken.frame.gestureRetryDue = false := retryDue_frame (l := taken) hbefore
        rw [htwo]
        exact Nat.lt_succ_of_le (framesLeft_of_notDue hseen hretried)
      | false =>
        have hone : l.framesLeft = 1 := by simp [framesLeft, h, hbefore, hdue]
        have hquiet : taken.frame.surface.framePending = false :=
          framePending_frame (l := taken) hbefore hdue
        rw [hone, framesLeft_of_quiet hquiet]
        exact Nat.zero_lt_one

/-! ## Running the frames -/

theorem runFrames_of_quiet (h : l.surface.framePending = false) (most : Nat) :
    l.runFrames most = (0, l) := by
  cases most with
  | zero => rfl
  | succ most =>
    unfold runFrames MemorySurface.takeFrame
    rw [h]

theorem runFrames_of_pending (h : l.surface.framePending = true) (most : Nat) :
    l.runFrames (most + 1) =
      ((l.answered.runFrames most).1 + 1, (l.answered.runFrames most).2) := by
  rw [runFrames]
  unfold MemorySurface.takeFrame
  rw [h]
  rfl

/-- **A run of frames.** No more frames are run than were left, and where all of them may be run, no
frame is asked for any more. -/
theorem length_runFrames (l : Layer MemorySurface) (most : Nat) :
    (l.runFrames most).1 ≤ l.framesLeft ∧
      (l.framesLeft ≤ most → (l.runFrames most).2.surface.framePending = false) := by
  induction most generalizing l with
  | zero =>
    refine ⟨Nat.zero_le _, fun hleft => ?_⟩
    rw [← Bool.not_eq_true, ← framesLeft_pos]
    exact Nat.not_lt.mpr hleft
  | succ most ih =>
    cases hpending : l.surface.framePending with
    | false =>
      rw [runFrames_of_quiet hpending]
      exact ⟨Nat.zero_le _, fun _ => hpending⟩
    | true =>
      have hfewer := framesLeft_answered hpending
      obtain ⟨hcount, hquiet⟩ := ih l.answered
      rw [runFrames_of_pending hpending]
      exact ⟨by dsimp only; omega, fun hleft => hquiet (by omega)⟩

theorem disposed_runFrames (l : Layer MemorySurface) (most : Nat) :
    (l.runFrames most).2.disposed = l.disposed := by
  induction most generalizing l with
  | zero => rfl
  | succ most ih =>
    cases hpending : l.surface.framePending with
    | false => rw [runFrames_of_quiet hpending]
    | true =>
      rw [runFrames_of_pending hpending]
      refine (ih l.answered).trans ?_
      have hcontent := content_step { l with surface := l.surface.takeFrame.2 } .frame
      exact (congrArg Content.disposed hcontent).trans (by unfold Content.step; split <;> rfl)

/-- Nothing is left to do: no frame is asked for, nothing waits for one, and nothing waits for
geometry. -/
structure Quiet (l : Layer MemorySurface) : Prop where
  frame : l.surface.framePending = false
  wheel : l.wheel.pending = none
  pointer : l.pointer.pending = none
  relayout : l.relayout.pending = none
  deferred : l.scale.deferred = none

/-- Whatever waits has asked for a frame, so where none is asked for, nothing waits. -/
theorem Awake.quiet (h : Awake l) (hframe : l.surface.framePending = false) : Quiet l := by
  have hwheel := h.wheel
  have hpointer := h.pointer
  have hrelayout := h.relayout
  rw [hframe] at hwheel hpointer hrelayout
  refine ⟨hframe, hwheel.pending_eq_none, hpointer.pending_eq_none, hrelayout.pending_eq_none, ?_⟩
  cases hdeferred : l.scale.deferred with
  | none => rfl
  | some g =>
    have hcoming := h.coming (h.due (by rw [hdeferred]; rfl))
    rw [hframe] at hcoming
    cases hcoming

/-- **The frames run out.** In every run in which a request for a frame is taken only to run the
frame, and before the end of the layer, three frames are enough: no more are run, and then nothing
is left to do. -/
theorem quiesces (h : Attended l) (hlive : l.disposed = false) {most : Nat} (hmost : 3 ≤ most) :
    (l.runFrames most).1 ≤ 3 ∧ Quiet (l.runFrames most).2 := by
  obtain ⟨hcount, hquiet⟩ := length_runFrames l most
  have hleft := framesLeft_le l
  have hawake : Awake (l.runFrames most).2 :=
    (h.runFrames most).awake ((disposed_runFrames l most).trans hlive)
  exact ⟨by omega, hawake.quiet (hquiet (by omega))⟩

theorem Attended.run (h : Attended l) (commands : List Command) : Attended (l.run commands) := by
  induction commands generalizing l with
  | nil => exact h
  | cons c rest ih => exact ih (h.command c)

theorem attended_ranged : Attended ranged :=
  ((Attended.create create?_untouched).host fun hpending => nomatch hpending).command _

/-- The reader drags the plot, and all frames have been run. -/
def draggedSoFar : Layer MemorySurface :=
  let pressed := ranged.step (.gesture (.pointerDown 100.0 100.0 .plot))
  ((pressed.step (.gesture (.pointerMove 100.0 150.0))).runFrames 3).2

/-- In the middle of the drag the series get their range back. It is too wide for a turn of the
wheel to pan it, and now both such a turn and a move of the pointer wait. -/
def wheelInDrag : Layer MemorySurface :=
  draggedSoFar.run
    [.gesture (.doubleClick .priceAxis), .autoscale (some ⟨0.0, 1e306⟩),
      .gesture (.wheel 250.0 100000.0 true .plot), .gesture (.pointerMove 100.0 200.0)]

/-- It takes all three. The first frame defers the turn of the wheel and follows the pointer, the
second retries the turn in the range of the drag and schedules the labels for that, and the third is
the one that was asked for then. -/
theorem quiesces_of_wheelInDrag :
    Attended wheelInDrag ∧ wheelInDrag.disposed = false ∧ 3 ≤ 4 ∧
      (wheelInDrag.runFrames 1).2.scale.deferred.isSome = true ∧
      (wheelInDrag.runFrames 4).1 = 3 ∧
      (wheelInDrag.runFrames 4).1 ≤ 3 ∧ Quiet (wheelInDrag.runFrames 4).2 := by
  have hattended : Attended wheelInDrag := (((attended_ranged.command _).command _).runFrames 3).run _
  have hlive : wheelInDrag.disposed = false := by decide +kernel
  exact ⟨hattended, hlive, by decide, by decide +kernel, by decide +kernel,
    quiesces hattended hlive (by decide)⟩

end ChartLayer.Layer
