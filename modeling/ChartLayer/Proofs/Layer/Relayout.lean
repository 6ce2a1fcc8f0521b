import ChartLayer.Layer.Command

/-!
# An attempt to place the labels

A frame in which labels are due makes one attempt to place them. `LabelAttempt` says how that can
end, and `LabelStep` what the layer is then. An attempt that fails for want of geometry is made once
more in the frame after; if that fails too, the labels are given up until something schedules them
again.

* `labelStep`: every attempt goes in one of these ways.
* `retryUsed_of_pending`: labels that are still due after it are due for the second time.
-/

namespace ChartLayer

/-- How an attempt to place the labels ends. -/
inductive LabelAttempt where
  | placed
  /-- Geometry is missing; the next frame tries again. -/
  | postponed
  /-- Geometry is missing again. -/
  | abandoned
  /-- The dataset of the labels is gone. -/
  | outdated
  deriving DecidableEq, Repr

namespace Layer

variable {σ : Type} [Surface σ]

/-- How the attempt that is due ends, if one is due. -/
def labelAttempt? (l : Layer σ) : Option LabelAttempt :=
  l.relayout.pending.map fun generation =>
    if generation = l.generation then
      match Labels.layout l.settings.labels l.labelRequests (Surface.priceMap l.surface) with
      | .ok _ => .placed
      | .error _ => if l.labelRetryUsed then .abandoned else .postponed
    else .outdated

/-- The ways in which settling the labels can go: how the attempt ends, and the layer after it. -/
inductive LabelStep (l : Layer σ) : Option LabelAttempt → Layer σ → Prop
  | idle : l.relayout.pending = none → LabelStep l none { l with relayout := {} }
  | outdated {generation : Nat} :
    l.relayout.pending = some generation → generation ≠ l.generation →
    LabelStep l (some .outdated)
      { l with relayout := {}, staleRelayouts := l.staleRelayouts + 1 }
  | placed {labels : LabelLayout Float} :
    l.relayout.pending = some l.generation →
    Labels.layout l.settings.labels l.labelRequests (Surface.priceMap l.surface) = .ok labels →
    LabelStep l (some .placed)
      (({ l with relayout := {}, labelRetryUsed := false, labels } : Layer σ).onSurface
        (Surface.showLabels labels))
  | postponed : l.relayout.pending = some l.generation → l.labelRetryUsed = false →
    LabelStep l (some .postponed)
      ({ l with relayout := {}, labelRetryUsed := true } : Layer σ).scheduleLabels
  | abandoned : l.relayout.pending = some l.generation → l.labelRetryUsed = true →
    LabelStep l (some .abandoned) { l with relayout := {}, labelRetryUsed := false }

variable {l : Layer σ}

theorem showLabels_of_ok {labels : LabelLayout Float}
    (hlayout : Labels.layout l.settings.labels l.labelRequests (Surface.priceMap l.surface) =
      .ok labels) :
    l.showLabels =
      ({ l with labelRetryUsed := false, labels } : Layer σ).onSurface
        (Surface.showLabels labels) := by
  unfold showLabels
  rw [hlayout]

/-- Without geometry the labels are scheduled once more, or given up. -/
theorem showLabels_of_error {what : MissingGeometry}
    (hlayout : Labels.layout l.settings.labels l.labelRequests (Surface.priceMap l.surface) =
      .error what) :
    l.showLabels =
      if l.labelRetryUsed then { l with labelRetryUsed := false }
      else ({ l with labelRetryUsed := true } : Layer σ).scheduleLabels := by
  unfold showLabels
  rw [hlayout]

theorem settleLabels_of_current (hpending : l.relayout.pending = some l.generation) :
    l.settleLabels = ({ l with relayout := {} } : Layer σ).showLabels := by
  unfold settleLabels Coalesced.take
  rw [hpending]
  exact if_pos rfl

/-- **One attempt.** -/
theorem labelStep (l : Layer σ) : LabelStep l l.labelAttempt? l.settleLabels := by
  cases hpending : l.relayout.pending with
  | none =>
    have hattempt : l.labelAttempt? = none := by simp [labelAttempt?, hpending]
    have hsettled : l.settleLabels = { l with relayout := {} } := by
      simp [settleLabels, Coalesced.take, hpending]
    rw [hattempt, hsettled]
    exact .idle hpending
  | some generation =>
    by_cases hgeneration : generation = l.generation
    · subst hgeneration
      rw [settleLabels_of_current hpending]
      cases hlayout : Labels.layout l.settings.labels l.labelRequests
          (Surface.priceMap l.surface) with
      | ok labels =>
        have hattempt : l.labelAttempt? = some .placed := by
          simp [labelAttempt?, hpending, hlayout]
        rw [hattempt, showLabels_of_ok (l := { l with relayout := {} }) hlayout]
        exact .placed hpending hlayout
      | error what =>
        rw [showLabels_of_error (l := { l with relayout := {} }) hlayout]
        cases hused : l.labelRetryUsed with
        | true =>
          have hattempt : l.labelAttempt? = some .abandoned := by
            simp [labelAttempt?, hpending, hlayout, hused]
          rw [hattempt]
          exact .abandoned hpending hused
        | false =>
          have hattempt : l.labelAttempt? = some .postponed := by
            simp [labelAttempt?, hpending, hlayout, hused]
          rw [hattempt]
          exact .postponed hpending hused
    · have hattempt : l.labelAttempt? = some .outdated := by
        simp [labelAttempt?, hpending, hgeneration]
      have hsettled : l.settleLabels =
          { l with relayout := {}, staleRelayouts := l.staleRelayouts + 1 } := by
        simp [settleLabels, Coalesced.take, hpending, hgeneration]
      rw [hattempt, hsettled]
      exact .outdated hpending hgeneration

/-! ## What is due afterwards -/

theorem relayout_scheduleLabels (l : Layer σ) :
    l.scheduleLabels.relayout = ⟨some l.generation, true⟩ := by
  unfold scheduleLabels askFrameIf
  dsimp only
  split <;> rfl

theorem labelRetryUsed_scheduleLabels (l : Layer σ) :
    l.scheduleLabels.labelRetryUsed = l.labelRetryUsed := by
  unfold scheduleLabels askFrameIf
  dsimp only
  split <;> rfl

/-- Labels that are still due after an attempt have one attempt left. -/
theorem retryUsed_of_pending (hpending : l.settleLabels.relayout.pending ≠ none) :
    l.settleLabels.labelRetryUsed = true := by
  have hstep := labelStep l
  generalize l.settleLabels = after, l.labelAttempt? = attempt at hstep hpending
  cases hstep with
  | postponed => exact labelRetryUsed_scheduleLabels _
  | idle | outdated | placed | abandoned => exact absurd rfl hpending

end Layer

end ChartLayer
