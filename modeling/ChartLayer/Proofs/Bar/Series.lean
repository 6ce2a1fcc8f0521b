import ChartLayer.Bar.Series
import Mathlib.Data.List.Induction

/-!
# A series is a time series

The bars of a series are finite, and each is later than the one before it, whatever is delivered in
whatever order: a whole history is sorted and thinned out, and a single bar is taken only in the
place of the last one or behind it. What is not taken changes nothing.

* `UpdateStep`, `PreviewStep`: all that can become of a bar.
* `Sound.serve`, `sound_run`: one request, and any run of them.
* `series_stays_sound`: what that says of bars and preview, and how little an update changes.
-/

namespace ChartLayer

/-- Each bar is later than those before it. -/
def Chronological (bars : List Bar) : Prop := bars.Pairwise fun a b => a.time < b.time

instance (bars : List Bar) : Decidable (Chronological bars) :=
  inferInstanceAs (Decidable (bars.Pairwise _))

theorem chronological_append_singleton {bars : List Bar} {b : Bar} :
    Chronological (bars ++ [b]) ↔ Chronological bars ∧ ∀ a ∈ bars, a.time < b.time := by
  simp [Chronological, List.pairwise_append]

/-- None is later than the last one. -/
theorem Chronological.le_last {bars : List Bar} (h : Chronological bars) {last : Bar}
    (hlast : bars.getLast? = some last) : ∀ a ∈ bars, a.time ≤ last.time := by
  obtain ⟨earlier, rfl⟩ := List.getLast?_eq_some_iff.mp hlast
  intro a ha
  rcases List.mem_append.mp ha with ha | ha
  · exact Int64.le_of_lt ((chronological_append_singleton.mp h).2 a ha)
  · rw [List.mem_singleton.mp ha]
    exact Int64.le_refl _

/-- A bar that is later than the last one goes behind it. -/
theorem Chronological.append {bars : List Bar} (h : Chronological bars) {b : Bar}
    (hlater : ∀ last ∈ bars.getLast?, last.time < b.time) : Chronological (bars ++ [b]) := by
  refine chronological_append_singleton.mpr ⟨h, fun a ha => ?_⟩
  cases hlast : bars.getLast? with
  | none => rw [List.getLast?_eq_none_iff.mp hlast] at ha; cases ha
  | some last => exact Int64.lt_of_le_of_lt (h.le_last hlast a ha) (hlater last hlast)

/-- Only the time of the last bar counts. -/
theorem chronological_replace_last {earlier : List Bar} {last b : Bar}
    (htime : last.time = b.time) :
    Chronological (earlier ++ [b]) ↔ Chronological (earlier ++ [last]) := by
  rw [chronological_append_singleton, chronological_append_singleton, htime]

namespace BarSeries

/-! ## Whole histories -/

theorem timeOrder_trans (a b c : Bar) : decide (a.time ≤ b.time) = true →
    decide (b.time ≤ c.time) = true → decide (a.time ≤ c.time) = true := by
  simp only [decide_eq_true_eq]
  exact Int64.le_trans

theorem timeOrder_total (a b : Bar) :
    (decide (a.time ≤ b.time) || decide (b.time ≤ a.time)) = true := by
  simp only [Bool.or_eq_true, decide_eq_true_eq]
  exact Int64.le_total _ _

theorem sortedFinite_pairwise (bars : List Bar) :
    (sortedFinite bars).Pairwise fun a b => a.time ≤ b.time :=
  (List.pairwise_mergeSort timeOrder_trans timeOrder_total _).imp of_decide_eq_true

theorem isFinite_of_mem_sortedFinite {bars : List Bar} {b : Bar} (h : b ∈ sortedFinite bars) :
    b.isFinite = true :=
  (List.mem_filter.mp (List.mem_mergeSort.mp h)).2

theorem lastPerTime_sublist (bars : List Bar) : (lastPerTime bars).Sublist bars := by
  fun_induction lastPerTime bars with
  | case1 => exact .slnil
  | case2 b => exact .refl _
  | case3 b c rest _ ih => exact ih.cons b
  | case4 b c rest _ ih => exact ih.cons_cons b

theorem chronological_lastPerTime {bars : List Bar}
    (h : bars.Pairwise fun a b => a.time ≤ b.time) : Chronological (lastPerTime bars) := by
  fun_induction lastPerTime bars with
  | case1 => exact .nil
  | case2 b => exact List.pairwise_singleton _ b
  | case3 b c rest _ ih => exact ih h.of_cons
  | case4 b c rest hne ih =>
    obtain ⟨hb, hrest⟩ := List.pairwise_cons.mp h
    refine List.pairwise_cons.mpr ⟨fun x hx => ?_, ih hrest⟩
    -- the next bar has another time, and none after it is earlier
    have hbc : b.time < c.time := Int64.lt_of_le_of_ne (hb c List.mem_cons_self) hne
    rcases List.mem_cons.mp ((lastPerTime_sublist _).subset hx) with rfl | hx
    · exact hbc
    · exact Int64.lt_of_lt_of_le hbc ((List.pairwise_cons.mp hrest).1 x hx)

/-! ## Single bars -/

/-- A single bar that a series does not take: it is not finite, or older than the last one. -/
def Refuses (s : BarSeries) (bar : Bar) : Prop :=
  bar.isFinite = true → ∃ last ∈ s.bars.getLast?, bar.time < last.time

/-- All that can become of an update: it is rejected, or it is finite and takes the place of a last
bar of its time, or goes behind a last bar of an earlier time. -/
inductive UpdateStep (bar : Bar) (s : BarSeries) : UpdateResult × BarSeries → Prop
  | rejected : s.Refuses bar → UpdateStep bar s (.rejected, s)
  | replaced (earlier : List Bar) (last : Bar) : bar.isFinite = true →
      s.bars = earlier ++ [last] → last.time = bar.time →
        UpdateStep bar s (.replaced, ⟨earlier ++ [bar], dropClosed s.live bar⟩)
  | appended : bar.isFinite = true → (∀ last ∈ s.bars.getLast?, last.time < bar.time) →
      UpdateStep bar s (.appended, ⟨s.bars ++ [bar], dropClosed s.live bar⟩)

theorem updateStep (bar : Bar) (s : BarSeries) : UpdateStep bar s (s.updateLast bar) := by
  unfold updateLast
  cases hfinite : bar.isFinite with
  | false => exact .rejected fun h => absurd (hfinite.symm.trans h) Bool.false_ne_true
  | true =>
    rw [Bool.not_true, if_neg Bool.false_ne_true]
    cases hlast : s.bars.getLast? with
    | none =>
      refine .appended hfinite fun last hmem => ?_
      cases hlast.symm.trans hmem
    | some last =>
      dsimp only
      split
      · rename_i htime
        obtain ⟨earlier, hbars⟩ := List.getLast?_eq_some_iff.mp hlast
        have hreplaced := UpdateStep.replaced earlier last hfinite hbars htime
        rwa [hbars, List.dropLast_concat]
      split
      · rename_i hold
        exact .rejected fun _ => ⟨last, hlast, hold⟩
      · rename_i hne hold
        refine .appended hfinite fun last' hmem => ?_
        cases hlast.symm.trans hmem
        exact Int64.lt_of_le_of_ne (Int64.not_lt.mp hold) hne

/-- All that can become of a preview: it is refused, or it is finite and no older than the last
bar. -/
inductive PreviewStep (bar : Bar) (s : BarSeries) : Bool × BarSeries → Prop
  | refused : s.Refuses bar → PreviewStep bar s (false, s)
  | taken : bar.isFinite = true → (∀ last ∈ s.bars.getLast?, last.time ≤ bar.time) →
      PreviewStep bar s (true, { s with live := some bar })

theorem previewStep (bar : Bar) (s : BarSeries) : PreviewStep bar s (s.setLive bar) := by
  unfold setLive
  cases hfinite : bar.isFinite with
  | false => exact .refused fun h => absurd (hfinite.symm.trans h) Bool.false_ne_true
  | true =>
    cases hold : s.bars.getLast?.any fun last => bar.time < last.time with
    | true =>
      obtain ⟨last, hlast, hlt⟩ := (Option.any_eq_true _ _).mp hold
      exact .refused fun _ => ⟨last, hlast, of_decide_eq_true hlt⟩
    | false =>
      refine .taken hfinite fun last hlast => ?_
      exact Int64.not_lt.mp (of_decide_eq_false ((Option.any_eq_false _ _).mp hold last hlast))

theorem mem_dropClosed {live : Option Bar} {bar l : Bar} :
    l ∈ dropClosed live bar ↔ l ∈ live ∧ (l.time ≤ bar.time → bar.complete = false) := by
  unfold dropClosed
  rw [Option.mem_filter_iff, Bool.not_eq_true', Bool.and_eq_false_imp, decide_eq_true_iff]

theorem mem_dropStale {live : Option Bar} {bars : List Bar} {l : Bar} :
    l ∈ dropStale live bars ↔ l ∈ live ∧ ∀ last ∈ bars.getLast?, last.time ≤ l.time := by
  unfold dropStale
  cases live with
  | none => simp
  | some m =>
    cases bars.getLast? with
    | none => simp
    | some last =>
      dsimp only
      split <;> rename_i hold <;> simp only [Option.mem_def, Option.some.injEq]
      · constructor
        · intro h; cases h
        · rintro ⟨rfl, h⟩
          exact absurd hold (Int64.not_lt.mpr (h last rfl))
      · constructor
        · rintro rfl
          refine ⟨rfl, ?_⟩
          rintro _ rfl
          exact Int64.not_lt.mp hold
        · exact And.left

/-! ## Runs -/

/-- What is asked of a series. -/
inductive Request where
  | setBars (bars : List Bar)
  | updateLast (bar : Bar)
  | setLive (bar : Bar)
  | clearLive
  | clear
  deriving DecidableEq, Repr

/-- The series after a request. -/
def serve (s : BarSeries) : Request → BarSeries
  | .setBars bars => (s.setBars bars).2
  | .updateLast bar => (s.updateLast bar).2
  | .setLive bar => (s.setLive bar).2
  | .clearLive => s.clearLive
  | .clear => s.clear

/-- The series after some requests, from an empty one. -/
def afterAll (requests : List Request) : BarSeries := requests.foldl serve {}

theorem afterAll_append_singleton (requests : List Request) (r : Request) :
    afterAll (requests ++ [r]) = (afterAll requests).serve r := by
  rw [afterAll, List.foldl_append]
  rfl

/-- A time series of finite bars, with a finite preview. -/
structure Sound (s : BarSeries) : Prop where
  inOrder : Chronological s.bars
  finite : ∀ b ∈ s.bars, b.isFinite = true
  liveFinite : ∀ l ∈ s.live, l.isFinite = true

theorem sound_empty : Sound {} :=
  ⟨.nil, fun _ h => (nomatch h), fun _ h => (nomatch h)⟩

variable {s : BarSeries}

theorem Sound.setBars (h : Sound s) (bars : List Bar) : Sound (s.setBars bars).2 where
  inOrder := chronological_lastPerTime (sortedFinite_pairwise bars)
  finite _ hb := isFinite_of_mem_sortedFinite ((lastPerTime_sublist _).subset hb)
  liveFinite l hl := h.liveFinite l (mem_dropStale.mp hl).1

/-- A finite bar that leaves a time series behind it. -/
theorem Sound.withLast (h : Sound s) {kept : List Bar} {bar : Bar} (hfinite : bar.isFinite = true)
    (hkept : ∀ b ∈ kept, b ∈ s.bars) (horder : Chronological (kept ++ [bar])) :
    Sound ⟨kept ++ [bar], dropClosed s.live bar⟩ where
  inOrder := horder
  finite b hb := by
    rcases List.mem_append.mp hb with hb | hb
    · exact h.finite b (hkept b hb)
    · rwa [List.mem_singleton.mp hb]
  liveFinite l hl := h.liveFinite l (mem_dropClosed.mp hl).1

theorem Sound.updateLast (h : Sound s) (bar : Bar) : Sound (s.updateLast bar).2 := by
  have hstep := updateStep bar s
  generalize s.updateLast bar = out at hstep ⊢
  cases hstep with
  | rejected => exact h
  | replaced earlier last hfinite hbars htime =>
    have horder := h.inOrder
    rw [hbars] at horder
    refine h.withLast hfinite (fun b hb => ?_) ((chronological_replace_last htime).mpr horder)
    rw [hbars]
    exact List.mem_append_left _ hb
  | appended hfinite hlater => exact h.withLast hfinite (fun _ hb => hb) (h.inOrder.append hlater)

theorem Sound.setLive (h : Sound s) (bar : Bar) : Sound (s.setLive bar).2 := by
  have hstep := previewStep bar s
  generalize s.setLive bar = out at hstep ⊢
  cases hstep with
  | refused => exact h
  | taken hfinite _ =>
    refine ⟨h.inOrder, h.finite, ?_⟩
    rintro l ⟨⟩
    exact hfinite

/-- **One request.** -/
theorem Sound.serve (h : Sound s) (request : Request) : Sound (s.serve request) := by
  cases request with
  | setBars bars => exact h.setBars bars
  | updateLast bar => exact h.updateLast bar
  | setLive bar => exact h.setLive bar
  | clearLive => exact ⟨h.inOrder, h.finite, fun _ hl => (nomatch hl)⟩
  | clear => exact sound_empty

/-- **Any run.** -/
theorem sound_run (requests : List Request) : Sound (afterAll requests) := by
  induction requests using List.reverseRecOn with
  | nil => exact sound_empty
  | append_singleton requests request ih =>
    rw [afterAll_append_singleton]
    exact ih.serve request

/-- What an update makes of the bars: nothing, one bar more, or another last bar. -/
theorem bars_updateLast (s : BarSeries) (bar : Bar) :
    (s.updateLast bar).2.bars = s.bars ∨ (s.updateLast bar).2.bars = s.bars ++ [bar] ∨
      ∃ earlier last, s.bars = earlier ++ [last] ∧ last.time = bar.time ∧
        (s.updateLast bar).2.bars = earlier ++ [bar] := by
  have hstep := updateStep bar s
  generalize s.updateLast bar = out at hstep ⊢
  cases hstep with
  | rejected => exact Or.inl rfl
  | replaced earlier last _ hbars htime => exact Or.inr (Or.inr ⟨earlier, last, hbars, htime, rfl⟩)
  | appended => exact Or.inr (Or.inl rfl)

theorem updateLast_of_rejected {bar : Bar} (h : (s.updateLast bar).1 = .rejected) :
    (s.updateLast bar).2 = s := by
  have hstep := updateStep bar s
  generalize s.updateLast bar = out at h hstep ⊢
  cases hstep with
  | rejected => rfl
  | replaced | appended => cases h

theorem setLive_of_refused {bar : Bar} (h : (s.setLive bar).1 = false) :
    (s.setLive bar).2 = s := by
  have hstep := previewStep bar s
  generalize s.setLive bar = out at h hstep ⊢
  cases hstep with
  | refused => rfl
  | taken => cases h

/-- **A time series of finite bars.** After any requests the bars are finite and in order of time,
and the preview is finite too. An update from there on changes no bar but the last one or adds one
bar, and a bar that is rejected, as an update or as a preview, changes nothing. -/
theorem series_stays_sound (requests : List Request) :
    let s := afterAll requests
    Chronological s.bars ∧ (∀ b ∈ s.bars, b.isFinite = true) ∧
      (∀ l ∈ s.live, l.isFinite = true) ∧
      ∀ bar : Bar,
        ((s.updateLast bar).2.bars = s.bars ∨ (s.updateLast bar).2.bars = s.bars ++ [bar] ∨
          ∃ earlier last, s.bars = earlier ++ [last] ∧ last.time = bar.time ∧
            (s.updateLast bar).2.bars = earlier ++ [bar]) ∧
        ((s.updateLast bar).1 = .rejected → (s.updateLast bar).2 = s) ∧
        ((s.setLive bar).1 = false → (s.setLive bar).2 = s) := by
  intro s
  have h : Sound s := sound_run requests
  refine ⟨h.inOrder, h.finite, h.liveFinite, fun bar => ?_⟩
  exact ⟨bars_updateLast s bar, updateLast_of_rejected, setLive_of_refused⟩

/-- Updates and a preview in which a bar comes twice, one comes too late and one is not finite. -/
def mixedRequests : List Request :=
  [.setBars [⟨900, 1.0, 1.0, 1.0, 1.0, 0.0, true⟩],
    .updateLast ⟨1800, 1.0, 1.0, 1.0, 1.0, 0.0, false⟩,
    .updateLast ⟨2700, 1.0, 0.0 / 0.0, 1.0, 1.0, 0.0, true⟩,
    .updateLast ⟨1800, 2.0, 2.0, 2.0, 2.0, 0.0, true⟩,
    .updateLast ⟨0, 1.0, 1.0, 1.0, 1.0, 0.0, true⟩,
    .setLive ⟨2700, 3.0, 3.0, 3.0, 3.0, 0.0, false⟩]

theorem series_of_mixed :
    let s := afterAll mixedRequests
    let late : Bar := ⟨0, 9.0, 9.0, 9.0, 9.0, 0.0, true⟩
    s.bars.map (fun b => (b.time, b.closePrice)) = [(900, 1.0), (1800, 2.0)] ∧
      s.live.map (fun b => b.time) = some 2700 ∧
      (s.updateLast late).1 = .rejected ∧ (s.setLive late).1 = false ∧
      Chronological s.bars ∧ (s.updateLast late).2 = s ∧ (s.setLive late).2 = s := by
  intro s late
  have hrejected : (s.updateLast late).1 = .rejected := by decide +kernel
  have hrefused : (s.setLive late).1 = false := by decide +kernel
  obtain ⟨horder, -, -, hbar⟩ := series_stays_sound mixedRequests
  obtain ⟨-, hupdate, hpreview⟩ := hbar late
  exact ⟨by decide +kernel, by decide +kernel, hrejected, hrefused, horder, hupdate hrejected,
    hpreview hrefused⟩

end BarSeries

end ChartLayer
