import ChartLayer.Proofs.Layer.Drawn

/-!
# The end of a layer

A layer that ends takes down all that it has put on its surface and forgets all that it knows, work
that waits for a frame included, whatever it has been asked to do before. From then on nothing
brings it back: a command changes its log of issues at most, and one that can be refused is refused.

* `step_of_disposed`, `run_of_disposed`: one command after the end, and any number of them.
* `Hosted.taken_down`: what is left after the end, in every run.
* `disposal_is_final`: both together.
-/

namespace ChartLayer

/-- What a layer puts on a surface in memory: drawings, labels and the badge, and the pan that it
takes away while it holds a drag. -/
def MemorySurface.overlay (s : MemorySurface) : MemorySurface where
  drawings := s.drawings
  nextHandle := s.nextHandle
  labels := s.labels
  badge := s.badge
  panEnabled := s.panEnabled

/-- A surface in memory on which nothing of a layer is left. -/
structure MemorySurface.Bare (s : MemorySurface) : Prop where
  drawings : s.drawings = []
  labels : s.labels = {}
  badge : s.badge = none
  pan : s.panEnabled = true

theorem MemorySurface.Bare.of_overlay {s s' : MemorySurface} (h : s.Bare)
    (hoverlay : s'.overlay = s.overlay) : s'.Bare where
  drawings := (congrArg MemorySurface.drawings hoverlay).trans h.drawings
  labels := (congrArg MemorySurface.labels hoverlay).trans h.labels
  badge := (congrArg MemorySurface.badge hoverlay).trans h.badge
  pan := (congrArg MemorySurface.panEnabled hoverlay).trans h.pan

/-- Whether a command can be refused. A series is always told a range, issues are always counted,
and neither a frame nor the end has an answer. -/
def Command.isFallible : Command → Bool
  | .autoscale _ | .report _ | .frame | .dispose => false
  | _ => true

namespace Layer

/-! ## After the end -/

section

variable {σ : Type} [Surface σ] {l : Layer σ}

/-- **One command.** It changes no more than the log. -/
theorem step_of_disposed (h : l.disposed = true) (c : Command) : ∃ log, l.step c = { l with log } := by
  unfold step perform
  rw [if_pos h]
  cases c <;> exact ⟨_, rfl⟩

/-- **Any number of commands.** -/
theorem run_of_disposed (h : l.disposed = true) (commands : List Command) :
    ∃ log, l.run commands = { l with log } := by
  induction commands generalizing l with
  | nil => exact ⟨l.log, rfl⟩
  | cons c rest ih =>
    obtain ⟨log, hstep⟩ := step_of_disposed h c
    obtain ⟨log', hrest⟩ := ih (disposed_step h c)
    refine ⟨log', ?_⟩
    change (l.step c).run rest = _
    rw [hrest, hstep]

theorem perform_of_disposed (h : l.disposed = true) (c : Command) :
    l.perform c = l.performDisposed c := if_pos h

theorem refused_of_disposed (h : l.disposed = true) {c : Command} (hc : c.isFallible = true) :
    (l.perform c).1 = .refused .disposed := by
  rw [perform_of_disposed h]
  cases c <;> first | rfl | cases hc

/-- A layer that knows nothing: no bars and no preview, no range, no drag and no gesture that waits,
no geometry that is frozen, no selection, nothing delivered, nothing drawn and nothing to do. -/
structure Emptied (l : Layer σ) : Prop where
  bars : l.bars = {}
  manual : l.scale.manual = none
  auto : l.scale.auto = none
  drag : l.scale.drag = .idle
  deferred : l.scale.deferred = none
  frozen : l.selector.frozen = {}
  selection : l.selection = {}
  zones : l.zones = []
  pools : l.pools = []
  labels : l.labels = {}
  registry : l.registry = {}
  pointer : l.pointer.pending = none
  wheel : l.wheel.pending = none
  relayout : l.relayout.pending = none

omit [Surface σ] in
/-- Surface, clock and log are not part of it. -/
theorem Emptied.of_eq (h : l.Emptied) (surface : σ) (clock : Nat) (log : IssueLog) :
    ({ l with surface, clock, log } : Layer σ).Emptied :=
  { h with }

theorem emptied_dispose (l : Layer σ) : l.dispose.Emptied := by
  constructor <;> rfl

end

/-! ## Runs -/

/-- What can come of a layer on an empty surface in memory: the host gives commands, sets the clock,
and does with its surface what it likes, except for what the layer has put there. -/
inductive Hosted : Layer MemorySurface → Prop
  | create {surface : MemorySurface} {settings : Settings} {l : Layer MemorySurface} :
      surface.drawings = [] → create? surface settings = .ok l → Hosted l
  | command {l : Layer MemorySurface} (c : Command) : Hosted l → Hosted (l.step c)
  | clock {l : Layer MemorySurface} (now : Nat) : Hosted l → Hosted (l.setClock now)
  | host {l : Layer MemorySurface} {surface : MemorySurface} :
      Hosted l → surface.overlay = l.surface.overlay → Hosted { l with surface }

variable {l : Layer MemorySurface}

theorem Hosted.reaches (h : Hosted l) : ∃ m, Reaches m l := by
  induction h with
  | create hempty hcreate => exact ⟨_, .create hempty hcreate⟩
  | command c _ ih => exact ih.imp' _ fun _ => .command c
  | clock now _ ih => exact ih.imp fun _ => .clock now
  | host _ hoverlay ih =>
    have hdrawings := congrArg MemorySurface.drawings hoverlay
    have hnext := congrArg MemorySurface.nextHandle hoverlay
    exact ih.imp fun _ hreach => .host hreach hdrawings hnext

theorem bare_dispose (hmirror : l.registry.Mirrored l.surface) : l.dispose.surface.Bare where
  drawings := hmirror.shown_clearAll
  labels := rfl
  badge := rfl
  pan := rfl

/-- **The end.** In every run, a layer that has ended knows nothing, and nothing of it is left on
its surface. -/
theorem Hosted.taken_down (h : Hosted l) (hdisposed : l.disposed = true) :
    l.Emptied ∧ l.surface.Bare := by
  induction h with
  | create _ hcreate =>
    rw [eq_fresh_of_create? hcreate] at hdisposed
    cases hdisposed
  | @command l c hbefore ih =>
    cases hlive : l.disposed with
    | true =>
      obtain ⟨hemptied, hbare⟩ := ih hlive
      obtain ⟨log, hstep⟩ := step_of_disposed hlive c
      rw [hstep]
      exact ⟨hemptied.of_eq l.surface l.clock log, hbare⟩
    | false =>
      rw [step_of_live hlive] at hdisposed ⊢
      obtain rfl := eq_dispose_of_disposed hlive hdisposed
      obtain ⟨m, hreach⟩ := hbefore.reaches
      exact ⟨emptied_dispose l, bare_dispose (hreach.inLine hlive).mirrored⟩
  | @clock l now _ ih =>
    obtain ⟨hemptied, hbare⟩ := ih hdisposed
    exact ⟨hemptied.of_eq l.surface now l.log, hbare⟩
  | @host l surface _ hoverlay ih =>
    obtain ⟨hemptied, hbare⟩ := ih hdisposed
    exact ⟨hemptied.of_eq surface l.clock l.log, hbare.of_overlay hoverlay⟩

theorem Hosted.run (h : Hosted l) (commands : List Command) : Hosted (l.run commands) := by
  induction commands generalizing l with
  | nil => exact h
  | cons c rest ih => exact ih (h.command c)

/-- **The end is complete and final.** In every run on a surface in memory, after its end a layer
knows nothing and nothing of it is left on its surface. Whatever commands come then, only the log of
issues changes; and of these commands each that can be refused is refused because the layer has
ended, a series that asks for its range is told its own, and a frame does nothing. -/
theorem disposal_is_final (h : Hosted l) (commands : List Command) (c : Command) :
    let ended := l.step .dispose
    let after := ended.run commands
    ended.disposed = true ∧ ended.Emptied ∧ ended.surface.Bare ∧
      (∃ log, after = { ended with log }) ∧
      (c.isFallible = true → (after.perform c).1 = .refused .disposed) ∧
      (∀ base, (after.perform (.autoscale base)).1 = .range base) ∧ after.step .frame = after := by
  intro ended after
  have hended : ended.disposed = true := by
    change (l.step .dispose).disposed = true
    unfold step perform
    split
    · assumption
    · rfl
  obtain ⟨hemptied, hbare⟩ := (h.command .dispose).taken_down hended
  obtain ⟨log, hlog⟩ := run_of_disposed hended commands
  have hafter : after.disposed = true := (congrArg Layer.disposed hlog).trans hended
  refine ⟨hended, hemptied, hbare, ⟨log, hlog⟩, refused_of_disposed hafter, fun base => ?_, ?_⟩
  · rw [perform_of_disposed hafter]
    rfl
  · unfold step
    rw [perform_of_disposed hafter]
    rfl

/-- Zones, pools and levels are drawn, the badge shows a price, a drag holds the pan, and a turn of
the wheel waits for the frame that has been asked for. -/
def busy : Layer MemorySurface :=
  let measured : Layer MemorySurface := { untouched with surface := .ofSize 800.0 500.0 }
  measured.run (mixedCommands ++
    [.autoscale (some ⟨90.0, 110.0⟩), .priceTick 100.0, .gesture (.pointerDown 100.0 100.0 .plot),
      .gesture (.pointerMove 100.0 150.0), .frame, .gesture (.wheel 250.0 100.0 false .priceAxis)])

theorem disposal_is_final_of_busy :
    Hosted busy ∧
      (busy.surface.drawings.length = 3 ∧ busy.surface.badge.isSome = true ∧
        busy.surface.panEnabled = false ∧ busy.surface.framePending = true ∧
        busy.scale.drag.isEngaged = true ∧ busy.wheel.pending.isSome = true) ∧
      let ended := busy.step .dispose
      let after := ended.run [.setZones [], .report [.tickNotFinite], .frame, .dispose]
      ended.disposed = true ∧ ended.Emptied ∧ ended.surface.Bare ∧
        (∃ log, after = { ended with log }) ∧ (after.perform .resetView).1 = .refused .disposed ∧
        (∀ base, (after.perform (.autoscale base)).1 = .range base) ∧
        after.step .frame = after := by
  have hmeasured : Hosted { untouched with surface := .ofSize 800.0 500.0 } :=
    (Hosted.create rfl create?_untouched).host rfl
  have hbusy : Hosted busy := hmeasured.run _
  obtain ⟨hended, hemptied, hbare, hlog, hrefused, hrange, hframe⟩ := disposal_is_final hbusy
    [.setZones [], .report [.tickNotFinite], .frame, .dispose] .resetView
  exact ⟨hbusy, by decide +kernel, hended, hemptied, hbare, hlog, hrefused rfl, hrange, hframe⟩

end Layer

end ChartLayer
