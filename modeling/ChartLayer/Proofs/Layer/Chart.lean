import ChartLayer.Proofs.Bar.Series
import ChartLayer.Proofs.Layer.Switch

/-!
# The bars on the chart

A history is drawn as a whole, every other bar by itself: in the place of the last bar drawn if that
has its time, else behind it. The series checks each bar against its own last bar, and the preview
is not one of its bars. So a bar can be older than a preview that has been drawn, and then the chart
is no time series any more, until the next history.

* `chronological_showBar`: what one more bar does to the bars drawn.
* `Charted.single`, `Charted.step`: one command.
* `chart_in_order_iff`: after any run the bars drawn are a time series exactly if the bars taken one
  by one since the last history came in order of time.
* `chart_out_of_order`: a run in which they do not.
-/

namespace ChartLayer

/-! ## One more bar on a surface -/

namespace MemorySurface

variable {s : MemorySurface}

theorem getLast?_showBar (b : Bar) (s : MemorySurface) :
    (s.showBar b).bars.getLast? = some b :=
  List.getLast?_concat

/-- A bar keeps the time series exactly if the last bar drawn is no later. -/
theorem chronological_showBar {b : Bar} :
    Chronological (s.showBar b).bars ↔
      Chronological s.bars ∧ ∀ last ∈ s.bars.getLast?, last.time ≤ b.time := by
  unfold showBar
  rcases List.eq_nil_or_concat' s.bars with hnil | ⟨earlier, last, hbars⟩
  · simp [hnil, Chronological]
  simp only [hbars, List.getLast?_concat, Option.any_some, Option.mem_some_iff, forall_eq']
  by_cases htime : last.time = b.time
  · rw [if_pos (beq_iff_eq.mpr htime), List.dropLast_concat, chronological_replace_last htime]
    exact (and_iff_left (htime ▸ Int64.le_refl _)).symm
  · rw [if_neg (mt beq_iff_eq.mp htime)]
    constructor
    · intro h
      obtain ⟨horder, hlater⟩ := chronological_append_singleton.mp h
      exact ⟨horder, Int64.le_of_lt (hlater last (by simp))⟩
    · rintro ⟨horder, hle⟩
      refine horder.append fun last' hlast => ?_
      cases List.getLast?_concat.symm.trans hlast
      exact Int64.lt_of_le_of_ne hle htime

end MemorySurface

/-! ## The series behind it -/

/-- What a command asks of the series. -/
def Command.barRequest? : Command → Option BarSeries.Request
  | .setBars bars => some (.setBars bars)
  | .updateBar bar => some (.updateLast bar)
  | .previewBar bar => some (.setLive bar)
  | .clearPreview => some .clearLive
  | .dispose => some .clear
  | _ => none

/-- No other command changes the series. -/
theorem Content.bars_after (content : Content) (c : Command) :
    (content.after c).bars = c.barRequest?.elim content.bars content.bars.serve := by
  have hrefreshed (content : Content) : content.refreshed.bars = content.bars := rfl
  cases c with
  | setBars bars =>
    change (content.withBars bars).bars = (content.bars.setBars bars).2
    unfold withBars
    dsimp only
    split <;> rfl
  | updateBar bar =>
    change (content.withBar bar).bars = (content.bars.updateLast bar).2
    have hstep := BarSeries.updateStep bar content.bars
    unfold withBar
    generalize content.bars.updateLast bar = out at hstep ⊢
    cases hstep with
    | rejected => rfl
    | replaced | appended =>
      dsimp only
      split <;> rfl
  | previewBar bar =>
    change (content.withPreview bar).bars = (content.bars.setLive bar).2
    have hstep := BarSeries.previewStep bar content.bars
    unfold withPreview
    generalize content.bars.setLive bar = out at hstep ⊢
    cases hstep <;> rfl
  | setView view =>
    change (content.withView view).bars = content.bars
    unfold withView
    split <;> rfl
  | setLimit limit =>
    change (content.withLimit limit).bars = content.bars
    unfold withLimit
    split <;> rfl
  | _ => rfl

/-- The command brings bars, or drops the preview. -/
def Command.deliversBars : Command → Bool
  | .setBars _ | .updateBar _ | .previewBar _ | .clearPreview => true
  | _ => false

namespace Layer

/-- The bars taken one by one since the last history, after one more command. -/
def singlesAfter (l : Layer MemorySurface) (singles : List Bar) : Command → List Bar
  | .setBars _ => []
  | .updateBar bar => if (l.bars.updateLast bar).1 = .rejected then singles else singles ++ [bar]
  | .previewBar bar => if (l.bars.setLive bar).1 = true then singles ++ [bar] else singles
  | _ => singles

/-- What can come of a layer on a surface without bars that is given bars only, and which bars it
has taken one by one since the last history. The host may set the clock, and do with its surface
what it likes, except for the bars. -/
inductive Charts : List Bar → Layer MemorySurface → Prop
  | create {surface : MemorySurface} {settings : Settings} {l : Layer MemorySurface} :
      surface.bars = [] → create? surface settings = .ok l → Charts [] l
  | command {singles : List Bar} {l : Layer MemorySurface} (c : Command) :
      c.deliversBars = true → Charts singles l → Charts (l.singlesAfter singles c) (l.step c)
  | clock {singles : List Bar} {l : Layer MemorySurface} (now : Nat) :
      Charts singles l → Charts singles (l.setClock now)
  | host {singles : List Bar} {l : Layer MemorySurface} {surface : MemorySurface} :
      Charts singles l → surface.bars = l.surface.bars → Charts singles { l with surface }

/-! ## What is drawn by a command -/

variable (l : Layer MemorySurface)

theorem bars_performLive (c : Command) :
    (l.performLive c).2.bars = c.barRequest?.elim l.bars l.bars.serve :=
  (congrArg Content.bars (content_performLive l c)).trans (Content.bars_after _ _)

theorem live_performLive {l : Layer MemorySurface} (hlive : l.disposed = false) {c : Command}
    (hc : c ≠ .dispose) : (l.performLive c).2.disposed = false :=
  (congrArg Content.disposed (content_performLive l c)).trans
    ((Content.disposed_after _ hc).trans hlive)

theorem surfaceBars_scheduleLabels : l.scheduleLabels.surface.bars = l.surface.bars := by
  unfold scheduleLabels askFrameIf
  dsimp only
  split <;> rfl

theorem surfaceBars_restoreTimes (times : Option TimeSpan) :
    (l.restoreTimes times).surface.bars = l.surface.bars := by
  unfold restoreTimes
  split
  · rfl
  · split <;> rfl

theorem surfaceBars_refresh : l.refresh.surface.bars = l.surface.bars := by
  have hdrawn : l.reselected.drawSelection.2.surface.bars = l.surface.bars :=
    MemorySurface.bars_eq_of_backdrop (Registry.backdrop_reconcile _ _ _ _)
  rcases refresh_cases l with ⟨-, -, heq⟩ | heq <;> rw [heq]
  · exact hdrawn
  · exact (surfaceBars_scheduleLabels _).trans hdrawn

/-- A history is drawn as a whole. -/
theorem surfaceBars_setBars (bars : List Bar) :
    (l.setBars bars).surface.bars = (l.bars.setBars bars).2.bars := by
  cases hchanged : (l.bars.setBars bars).1.datasetChanged with
  | false =>
    rw [setBars_of_same l hchanged]
    exact (surfaceBars_restoreTimes _ _).trans (surfaceBars_refresh _)
  | true =>
    rw [setBars_of_changed l hchanged]
    exact surfaceBars_refresh _

/-- A bar that is taken is drawn by itself. -/
theorem surfaceBars_updateBar (bar : Bar) :
    (l.updateBar bar).surface.bars =
      if (l.bars.updateLast bar).1 = .rejected then l.surface.bars
      else (l.surface.showBar bar).bars := by
  unfold updateBar
  obtain ⟨result, series⟩ := l.bars.updateLast bar
  cases result with
  | rejected => rfl
  | replaced | appended =>
    dsimp only
    split
    · exact surfaceBars_refresh _
    · rfl

theorem surfaceBars_previewBar (bar : Bar) :
    (l.previewBar bar).surface.bars =
      if (l.bars.setLive bar).1 = true then (l.surface.showBar bar).bars else l.surface.bars := by
  unfold previewBar
  obtain ⟨taken, series⟩ := l.bars.setLive bar
  cases taken <;> rfl

/-! ## The invariant -/

/-- The bars drawn end with the last bar taken by itself, or are those of the series; and they are a
time series exactly if the bars taken one by one are in order of time. -/
structure Charted (singles : List Bar) (l : Layer MemorySurface) : Prop where
  live : l.disposed = false
  sound : l.bars.Sound
  whole : singles = [] → l.surface.bars = l.bars.bars
  ends : ∀ b ∈ singles.getLast?, l.surface.bars.getLast? = some b
  inOrder : Chronological l.surface.bars ↔ singles.Pairwise fun a b => a.time ≤ b.time

variable {l} {singles : List Bar}

/-- **One bar.** The series has taken it, so it is no older than the last bar of the series. -/
theorem Charted.inOrder_show (h : Charted singles l) {bar : Bar}
    (htaken : ∀ last ∈ l.bars.bars.getLast?, last.time ≤ bar.time) :
    Chronological (l.surface.showBar bar).bars ↔
      (singles ++ [bar]).Pairwise fun a b => a.time ≤ b.time := by
  rw [MemorySurface.chronological_showBar, h.inOrder, List.pairwise_append]
  refine and_congr_right fun hsingles => ?_
  rcases List.eq_nil_or_concat' singles with hnil | ⟨earlier, last, hconcat⟩
  · rw [h.whole hnil, hnil]
    exact iff_of_true htaken (by simp)
  · have hlast : l.surface.bars.getLast? = some last :=
      h.ends last (hconcat ▸ List.getLast?_concat)
    rw [hlast, hconcat]
    rw [hconcat] at hsingles
    -- the last of the bars taken is no earlier than any of them
    have hmost : ∀ a ∈ earlier, a.time ≤ last.time := by
      intro a ha
      exact (List.pairwise_append.mp hsingles).2.2 a ha last (List.mem_singleton.mpr rfl)
    simp only [Option.mem_some_iff, forall_eq', List.pairwise_singleton, true_and,
      List.mem_append, List.mem_singleton, forall_eq]
    constructor
    · rintro hle a (ha | rfl)
      · exact Int64.le_trans (hmost a ha) hle
      · exact hle
    · intro hle
      exact hle last (Or.inr rfl)

/-- A bar that the series has taken is drawn. -/
theorem Charted.single (h : Charted singles l) {bar : Bar}
    (htaken : ∀ last ∈ l.bars.bars.getLast?, last.time ≤ bar.time) {l' : Layer MemorySurface}
    (hlive : l'.disposed = false) (hsound : l'.bars.Sound)
    (hdrawn : l'.surface.bars = (l.surface.showBar bar).bars) : Charted (singles ++ [bar]) l' where
  live := hlive
  sound := hsound
  whole hnil := absurd hnil (by simp)
  ends b hb := by
    rw [List.getLast?_concat] at hb
    cases hb
    rw [hdrawn, MemorySurface.getLast?_showBar]
  inOrder := by rw [hdrawn, h.inOrder_show htaken]

/-- Neither the chart nor the bars of the series are different. -/
theorem Charted.of_eq (h : Charted singles l) {l' : Layer MemorySurface}
    (hlive : l'.disposed = false) (hsound : l'.bars.Sound) (hbars : l'.bars.bars = l.bars.bars)
    (hdrawn : l'.surface.bars = l.surface.bars) : Charted singles l' where
  live := hlive
  sound := hsound
  whole hnil := by rw [hdrawn, hbars, h.whole hnil]
  ends := by rw [hdrawn]; exact h.ends
  inOrder := by rw [hdrawn]; exact h.inOrder

theorem Charted.setBars (h : Charted singles l) (bars : List Bar) :
    Charted [] (l.setBars bars) := by
  have hlive : (l.setBars bars).disposed = false :=
    live_performLive (c := .setBars bars) h.live (by rintro ⟨⟩)
  have hseries : (l.setBars bars).bars = (l.bars.setBars bars).2 :=
    bars_performLive l (.setBars bars)
  have hdrawn := surfaceBars_setBars l bars
  have hsound := h.sound.setBars bars
  refine ⟨hlive, hseries ▸ hsound, fun _ => ?_, ?_, ?_⟩
  · rw [hdrawn]
    exact (congrArg BarSeries.bars hseries).symm
  · rintro b ⟨⟩
  · rw [hdrawn]
    exact iff_of_true hsound.inOrder .nil

theorem Charted.updateBar (h : Charted singles l) (bar : Bar) :
    Charted (if (l.bars.updateLast bar).1 = .rejected then singles else singles ++ [bar])
      (l.updateBar bar) := by
  have hlive : (l.updateBar bar).disposed = false :=
    live_performLive (c := .updateBar bar) h.live (by rintro ⟨⟩)
  have hseries : (l.updateBar bar).bars = (l.bars.updateLast bar).2 :=
    bars_performLive l (.updateBar bar)
  have hsound : (l.updateBar bar).bars.Sound := hseries ▸ h.sound.updateLast bar
  have hdrawn := surfaceBars_updateBar l bar
  have hstep := BarSeries.updateStep bar l.bars
  generalize l.bars.updateLast bar = out at hstep hseries hdrawn ⊢
  cases hstep with
  | rejected => exact h.of_eq hlive hsound (congrArg BarSeries.bars hseries) hdrawn
  | replaced earlier last _ hbars htime =>
    refine h.single (fun last' hlast => ?_) hlive hsound hdrawn
    rw [hbars, List.getLast?_concat] at hlast
    cases hlast
    exact htime ▸ Int64.le_refl _
  | appended _ hlater =>
    exact h.single (fun last hlast => Int64.le_of_lt (hlater last hlast)) hlive hsound hdrawn

theorem Charted.previewBar (h : Charted singles l) (bar : Bar) :
    Charted (if (l.bars.setLive bar).1 = true then singles ++ [bar] else singles)
      (l.previewBar bar) := by
  have hlive : (l.previewBar bar).disposed = false :=
    live_performLive (c := .previewBar bar) h.live (by rintro ⟨⟩)
  have hseries : (l.previewBar bar).bars = (l.bars.setLive bar).2 :=
    bars_performLive l (.previewBar bar)
  have hsound : (l.previewBar bar).bars.Sound := hseries ▸ h.sound.setLive bar
  have hdrawn := surfaceBars_previewBar l bar
  have hstep := BarSeries.previewStep bar l.bars
  generalize l.bars.setLive bar = out at hstep hseries hdrawn ⊢
  cases hstep with
  | refused => exact h.of_eq hlive hsound (congrArg BarSeries.bars hseries) hdrawn
  | taken _ hlater => exact h.single hlater hlive hsound hdrawn

/-- **One command.** -/
theorem Charted.step (h : Charted singles l) {c : Command} (hc : c.deliversBars = true) :
    Charted (l.singlesAfter singles c) (l.step c) := by
  rw [step_of_live h.live]
  cases c with
  | setBars bars => exact h.setBars bars
  | updateBar bar => exact h.updateBar bar
  | previewBar bar => exact h.previewBar bar
  | clearPreview => exact h.of_eq h.live (h.sound.serve .clearLive) rfl rfl
  | _ => cases hc

/-! ## Any run -/

theorem Charts.charted (h : Charts singles l) : Charted singles l := by
  induction h with
  | create hempty hcreate =>
    rw [eq_fresh_of_create? hcreate]
    refine ⟨rfl, BarSeries.sound_empty, fun _ => hempty, ?_, ?_⟩
    · rintro b ⟨⟩
    · refine iff_of_true ?_ .nil
      rw [Chronological, fresh, hempty]
      exact .nil
  | command c hc _ ih => exact ih.step hc
  | clock now _ ih => exact ih.of_eq ih.live ih.sound rfl rfl
  | host _ hbars ih => exact ih.of_eq ih.live ih.sound rfl hbars

/-- **The chart in order.** In every run of histories, updates and previews the bars drawn are a
time series exactly if those taken one by one since the last history came in order of time. -/
theorem chart_in_order_iff (h : Charts singles l) :
    Chronological l.surface.bars ↔ singles.Pairwise fun a b => a.time ≤ b.time :=
  h.charted.inOrder

/-- The bar of a preview comes in, and then the next preview. -/
def followedCommands : List Command :=
  [.setBars [flatBar 0 100.0], .previewBar (flatBar 900 101.0), .updateBar (flatBar 900 102.0),
    .previewBar (flatBar 1800 103.0)]

theorem chart_of_followed_preview :
    ∃ singles l, l = untouched.run followedCommands ∧ Charts singles l ∧
      singles.map (fun b => b.time) = [900, 900, 1800] ∧
      l.surface.bars.map (fun b => b.time) = [0, 900, 1800] ∧
      (Chronological l.surface.bars ↔ singles.Pairwise fun a b => a.time ≤ b.time) := by
  have huntouched : Charts [] untouched := .create rfl create?_untouched
  have hrun : Charts _ (untouched.run followedCommands) :=
    (((huntouched.command _ rfl).command _ rfl).command _ rfl).command _ rfl
  exact ⟨_, _, rfl, hrun, by decide +kernel, by decide +kernel, chart_in_order_iff hrun⟩

/-- **The chart out of order.** A bar of the series comes in below a preview that has been drawn. -/
theorem chart_out_of_order :
    let l := untouched.run [.setBars [flatBar 0 100.0], .previewBar (flatBar 1800 101.0),
      .updateBar (flatBar 900 102.0)]
    l.bars.bars.map (fun b => b.time) = [0, 900] ∧
      l.surface.bars.map (fun b => b.time) = [0, 1800, 900] ∧ ¬Chronological l.surface.bars := by
  decide +kernel

end Layer

end ChartLayer
