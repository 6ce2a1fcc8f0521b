import ChartLayer.Proofs.Layer.Content
import ChartLayer.Proofs.Layer.Drawn
import ChartLayer.Proofs.Layer.Held
import ChartLayer.Proofs.Price.Gestures

/-!
# A reset and what came before it

A reset gives the range of prices back to the series, and as long as the reader does nothing else it
should stay with them. But a gesture from before the reset may still wait for a frame, and set a
range again when it is applied there. `AtRest` says that none does; it lasts through frames,
questions of the series and changes of the viewport, whatever happens to the surface in between.

* `AtRest.frame`, `AtRest.idle`: a frame, and any run of such events.
* `reset_sticks`: both ways to reset leave the layer at rest if no turn of the wheel waits, and no
  gesture is deferred that could set a range.
* `reset_undone`: both are undone if one does.
-/

namespace ChartLayer

/-! ## What waits in the price scale -/

namespace PriceScale

variable {α : Type}

/-- What is deferred cannot set a range: it is no turn of the wheel, and no move in a drag. -/
def Harmless (s : PriceScale α) : Prop :=
  match s.deferred with
  | some (.wheel ..) => False
  | some (.pointerMove ..) => s.drag = .idle ∨ s.drag = .released
  | _ => True

instance (s : PriceScale Float) : Decidable s.Harmless := by
  unfold Harmless
  split <;> infer_instance

theorem harmless_of_none {s : PriceScale α} (h : s.deferred = none) : s.Harmless := by
  unfold Harmless
  rw [h]
  trivial

variable [Quantity α] {s : PriceScale α}

/-- Neither a press nor the end of a drag sets a range, nor a move while nothing is pressed. -/
theorem manual_apply_harmless {g : Gesture α} (hm : s.manual = none)
    (hg : Harmless { s with deferred := some g }) (map : PriceMap α) :
    (s.apply g map).2.manual = none := by
  cases g with
  | wheel y delta modifier region => exact hg.elim
  | pointerMove x y =>
    have hdrag : s.drag = .idle ∨ s.drag = .released := hg
    have hstep := s.pointerStep x y map
    change (s.followPointer x y map).2.manual = none
    generalize s.followPointer x y map = out at hstep ⊢
    cases hstep with
    | idle | released | engagedInVain | lacking => exact hm
    | engaged _ hpressed | moved _ hpressed =>
      rcases hdrag with hdrag | hdrag <;> rw [hdrag] at hpressed <;> cases hpressed
  | pointerDown x y region => cases region <;> exact hm
  | doubleClick region =>
    cases region with
    | priceAxis => rfl
    | plot | outside => exact hm
  | pointerUp | pointerCancel | blur => exact hm

theorem manual_retry (hm : s.manual = none) (h : s.Harmless) (map : PriceMap α) :
    (s.retry map).2.manual = none := by
  unfold retry
  cases hdeferred : s.deferred with
  | none => exact hm
  | some g =>
    have hg : Harmless { s with deferred := some g } := by rwa [← hdeferred]
    have hafter := manual_apply_harmless (s := { s with deferred := none }) hm hg map
    dsimp only
    split <;> rename_i heq <;> rw [heq] at hafter <;> exact hafter

end PriceScale

namespace Layer

variable {σ : Type}

/-! ## What waits in the layer -/

/-- The series have the range, and no gesture waits that could take it. -/
structure AtRest (l : Layer σ) : Prop where
  manual : l.scale.manual = none
  wheel : l.wheel.pending = none
  pointer : l.pointer.pending = none
  harmless : l.scale.Harmless

theorem AtRest.of_held {l l' : Layer σ} (h : AtRest l) (hheld : l'.held = l.held) : AtRest l' := by
  obtain ⟨hscale, hwheel, hpointer⟩ := Held.mk.inj hheld
  refine ⟨?_, ?_, ?_, ?_⟩
  · rw [hscale]; exact h.manual
  · rw [hwheel]; exact h.wheel
  · rw [hpointer]; exact h.pointer
  · rw [hscale]; exact h.harmless

variable [Surface σ] {l : Layer σ}

/-! ## Frames -/

/-- The one retry sets no range, and nothing is deferred afterwards. -/
theorem AtRest.retryGesture (h : AtRest l) : AtRest l.retryGesture := by
  have hretried : AtRest { l with
      gestureRetryDue := false
      scale := (l.scale.retry (Surface.priceMap l.surface)).2 } :=
    { manual := PriceScale.manual_retry h.manual h.harmless _
      wheel := h.wheel
      pointer := h.pointer
      harmless := PriceScale.harmless_of_none (PriceScale.deferred_retry _ _) }
  rcases retryGesture_cases l with ⟨-, heq⟩ | ⟨scale, rfl, ⟨-, heq⟩ | ⟨effect, -, heq⟩⟩ <;> rw [heq]
  · exact h
  · exact hretried
  · exact hretried.of_held (held_carryOut _ _)

theorem AtRest.settleWheel (h : AtRest l) : AtRest l.settleWheel := by
  rw [settleWheel_of_none h.wheel]
  exact ⟨h.manual, rfl, h.pointer, h.harmless⟩

theorem AtRest.settlePointer (h : AtRest l) : AtRest l.settlePointer := by
  rw [settlePointer_of_none h.pointer]
  exact ⟨h.manual, h.wheel, rfl, h.harmless⟩

/-- **A frame.** -/
theorem AtRest.frame (h : AtRest l) : AtRest l.frame :=
  h.retryGesture.settleWheel.settlePointer.of_held (held_settleLabels _)

omit [Surface σ] in
theorem AtRest.autoscale (h : AtRest l) (base : Option (PriceRange Float)) :
    AtRest (l.autoscale base).2 := by
  have hscale : (l.scale.autoscale base).2 = { l.scale with auto := base.or l.scale.auto } := by
    unfold PriceScale.autoscale
    split
    · rename_i heq
      rw [h.manual] at heq
      cases heq
    · rfl
  have hrest : AtRest { l with scale := (l.scale.autoscale base).2 } := by
    rw [hscale]
    exact ⟨h.manual, h.wheel, h.pointer, h.harmless⟩
  exact hrest

/-! ## Nothing but frames -/

/-- What goes on while the reader does nothing. Whatever happens to the surface may happen. -/
inductive IdleEvent (σ : Type) where
  | frame
  | autoscale (base : Option (PriceRange Float))
  | viewportChanged
  | surface (change : σ → σ)

/-- The layer after such an event. -/
def idle (l : Layer σ) : IdleEvent σ → Layer σ
  | .frame => l.step .frame
  | .autoscale base => l.step (.autoscale base)
  | .viewportChanged => l.step .viewportChanged
  | .surface change => l.onSurface change

/-- **One event.** -/
theorem AtRest.idle (h : AtRest l) (event : IdleEvent σ) : AtRest (l.idle event) := by
  cases hdisposed : l.disposed with
  | true =>
    have hsame (c : Command) : AtRest (l.step c) := h.of_held (held_step_of_disposed hdisposed c)
    cases event with
    | frame => exact hsame .frame
    | autoscale base => exact hsame (.autoscale base)
    | viewportChanged => exact hsame .viewportChanged
    | surface change => exact h.of_held rfl
  | false =>
    cases event with
    | frame =>
      change AtRest (l.step .frame)
      rw [step_of_live hdisposed]
      exact h.frame
    | autoscale base =>
      change AtRest (l.step (.autoscale base))
      rw [step_of_live hdisposed]
      exact h.autoscale base
    | viewportChanged =>
      change AtRest (l.step .viewportChanged)
      rw [step_of_live hdisposed]
      exact h.of_held (held_scheduleLabels l)
    | surface change => exact h.of_held rfl

/-- **Any number of them.** -/
theorem AtRest.manual_run (h : AtRest l) (events : List (IdleEvent σ)) :
    (events.foldl Layer.idle l).scale.manual = none := by
  induction events generalizing l with
  | nil => exact h.manual
  | cons event rest ih => exact ih (h.idle event)

/-! ## Resets -/

/-- What a layer can be brought to: commands, the clock, and whatever happens to the surface. -/
inductive Reachable : Layer σ → Prop
  | create {surface : σ} {settings : Settings} {l : Layer σ} :
      create? surface settings = .ok l → Reachable l
  | command {l : Layer σ} (c : Command) : Reachable l → Reachable (l.step c)
  | clock {l : Layer σ} (now : Nat) : Reachable l → Reachable (l.setClock now)
  | surface {l : Layer σ} (change : σ → σ) : Reachable l → Reachable (l.onSurface change)

/-- The end of a layer leaves nothing of the reader's hand. -/
theorem AtRest.of_disposed (h : Reachable l) (hdisposed : l.disposed = true) : AtRest l := by
  induction h with
  | create hcreate =>
    rw [eq_fresh_of_create? hcreate] at hdisposed
    cases hdisposed
  | @command l c _ ih =>
    cases hbefore : l.disposed with
    | true => exact (ih hbefore).of_held (held_step_of_disposed hbefore c)
    | false =>
      rw [step_of_live hbefore] at hdisposed ⊢
      obtain rfl := eq_dispose_of_disposed hbefore hdisposed
      exact ⟨rfl, rfl, rfl, trivial⟩
  | clock now _ ih => exact (ih hdisposed).of_held rfl
  | surface change _ ih => exact (ih hdisposed).of_held rfl

/-- A turn of the wheel waits for geometry. -/
def DefersWheel (l : Layer σ) : Prop :=
  ∃ y delta modifier region, l.scale.deferred = some (.wheel y delta modifier region)

/-- A reset of the view drops the drag and the move that waits, but not the wheel. -/
theorem atRest_resetView (hwheel : l.wheel.pending = none) (hdefers : ¬DefersWheel l) :
    AtRest l.resetView := by
  let released : Layer σ :=
    { l with
      surface := Surface.fitTimes (Surface.invalidatePrices (Surface.enablePan true l.surface))
      scale := l.scale.dropDrag.2.release
      pointer := l.pointer.cancel }
  have hharmless : released.scale.Harmless := by
    unfold PriceScale.Harmless
    split
    · rename_i heq
      exact hdefers ⟨_, _, _, _, heq⟩
    · exact Or.inl rfl
    · trivial
  have hreleased : AtRest released := ⟨rfl, hwheel, rfl, hharmless⟩
  exact hreleased.of_held (held_scheduleLabels released)

/-- A double click on the axis settles wheel and pointer, but not what is deferred. -/
theorem atRest_doubleClick
    (hharmless : (l.gesture (.doubleClick .priceAxis)).scale.Harmless) :
    AtRest (l.gesture (.doubleClick .priceAxis)) := by
  have hheld := held_passGesture l.settleWheel.settlePointer (.doubleClick .priceAxis)
  obtain ⟨hscale, hwheel, hpointer⟩ := Held.mk.inj hheld
  refine ⟨?_, ?_, ?_, hharmless⟩
  · exact congrArg PriceScale.manual hscale
  · exact congrArg Coalesced.pending
      (hwheel.trans ((wheel_settlePointer _).trans (wheel_settleWheel l)))
  · exact congrArg Coalesced.pending (hpointer.trans (pointer_settlePointer _))

/-- **A reset sticks.** After any history, a reset of the view leaves the series their range through
any frames, questions of the series and changes of the viewport, if no turn of the wheel waits then,
for a frame or for geometry; and so does a double click on the price axis, if nothing that could set
a range is deferred after it. -/
theorem reset_sticks (h : Reachable l) (events : List (IdleEvent σ)) :
    (l.wheel.pending = none → ¬DefersWheel l →
      (events.foldl idle (l.step .resetView)).scale.manual = none) ∧
    ((l.step (.gesture (.doubleClick .priceAxis))).scale.Harmless →
      (events.foldl idle (l.step (.gesture (.doubleClick .priceAxis)))).scale.manual = none) := by
  cases hdisposed : l.disposed with
  | true =>
    have hrest (c : Command) : AtRest (l.step c) :=
      (AtRest.of_disposed h hdisposed).of_held (held_step_of_disposed hdisposed c)
    exact ⟨fun _ _ => (hrest _).manual_run events, fun _ => (hrest _).manual_run events⟩
  | false =>
    rw [step_of_live hdisposed, step_of_live hdisposed]
    exact ⟨fun hwheel hdefers => (atRest_resetView hwheel hdefers).manual_run events,
      fun hharmless => (atRest_doubleClick hharmless).manual_run events⟩

/-! ## Histories with a manual range -/

/-- A layer on a pane of some size, whose series have asked for a range. -/
def ranged : Layer MemorySurface :=
  (untouched.onSurface fun _ => .ofSize 800.0 500.0).step (.autoscale (some ⟨90.0, 110.0⟩))

/-- The reader has panned by a drag. -/
def dragged : Layer MemorySurface :=
  ranged.run [.gesture (.pointerDown 100.0 100.0 .plot), .gesture (.pointerMove 100.0 150.0), .frame]

theorem reachable_run {l : Layer MemorySurface} (h : Reachable l) (commands : List Command) :
    Reachable (l.run commands) := by
  induction commands generalizing l with
  | nil => exact h
  | cons c rest ih => exact ih (h.command c)

theorem reachable_ranged : Reachable ranged :=
  ((Reachable.create create?_untouched).surface _).command _

theorem reset_of_dragged :
    Reachable dragged ∧ dragged.scale.manual.isSome = true ∧
      ([.frame, .viewportChanged, .frame].foldl idle (dragged.step .resetView)).scale.manual = none ∧
      ([.frame, .viewportChanged, .frame].foldl idle
        (dragged.step (.gesture (.doubleClick .priceAxis)))).scale.manual = none := by
  have hreachable : Reachable dragged := reachable_run reachable_ranged _
  have hsticks := reset_sticks hreachable [.frame, .viewportChanged, .frame]
  have hdefers : ¬DefersWheel dragged := by
    rintro ⟨y, delta, modifier, region, hwheel⟩
    have hnone : dragged.scale.deferred = none := by decide +kernel
    rw [hnone] at hwheel
    cases hwheel
  exact ⟨hreachable, by decide +kernel, hsticks.1 (by decide +kernel) hdefers,
    hsticks.2 (by decide +kernel)⟩

/-- A turn of the wheel that pans. -/
def panTurn : Command := .gesture (.wheel 250.0 100.0 true .plot)

/-- The turn has met a pane without a size, which has one now. -/
def waiting : Layer MemorySurface :=
  (untouched.run [.autoscale (some ⟨90.0, 110.0⟩), panTurn, .frame]).onSurface
    fun _ => .ofSize 800.0 500.0

/-- **A reset is undone.** The frame after it applies the turn of the wheel that waited for a frame
when the view was reset, or for geometry when the axis was double clicked. -/
theorem reset_undone :
    (Reachable (ranged.step panTurn) ∧
      ([.frame].foldl idle ((ranged.step panTurn).step .resetView)).scale.manual.isSome = true) ∧
    (Reachable waiting ∧
      ([.frame].foldl idle
        (waiting.step (.gesture (.doubleClick .priceAxis)))).scale.manual.isSome = true) := by
  have hunlaid : Reachable (untouched.run [.autoscale (some ⟨90.0, 110.0⟩), panTurn, .frame]) :=
    reachable_run (.create create?_untouched) _
  exact ⟨⟨reachable_ranged.command _, by decide +kernel⟩, ⟨hunlaid.surface _, by decide +kernel⟩⟩

end Layer

end ChartLayer
