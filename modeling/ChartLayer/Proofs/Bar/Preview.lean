import ChartLayer.Proofs.Bar.Series

/-!
# When a preview is out of date

A preview stands for the bar that is still forming, so it should not be older than the last bar of
the series. A history drops a preview that is, and none is taken that is. An update, however, drops
a preview only if its bar is complete: an incomplete one that is later leaves the preview behind
(`Request.overtakes`).

* `fresh_serve_iff`: one request puts a preview out of date only so.
* `Ahead.serve`: a preview is never older than a complete bar.
* `fresh_throughout_iff`: both for any run.
* `preview_overtaken`: a preview that is left behind and still decides the reference price.
-/

namespace ChartLayer.BarSeries

/-- The preview, if there is one, is no older than the last bar. -/
def Fresh (s : BarSeries) : Prop := ∀ l ∈ s.live, ∀ last ∈ s.bars.getLast?, last.time ≤ l.time

instance (s : BarSeries) : Decidable (Fresh s) :=
  inferInstanceAs (Decidable (∀ l ∈ s.live, ∀ last ∈ s.bars.getLast?, last.time ≤ l.time))

/-- Whether a request brings an incomplete bar that is later than the preview. -/
def Request.overtakes (r : Request) (s : BarSeries) : Bool :=
  match r with
  | .updateLast bar => bar.isFinite && !bar.complete && s.live.any fun l => l.time < bar.time
  | _ => false

theorem Request.overtakes_updateLast {bar : Bar} {s : BarSeries} :
    (Request.updateLast bar).overtakes s = true ↔
      bar.isFinite = true ∧ bar.complete = false ∧ ∃ l ∈ s.live, l.time < bar.time := by
  simp [Request.overtakes, and_assoc, Option.any_eq_true]

variable {s : BarSeries}

/-! ## One request -/

/-- A bar that was not later than the preview leaves it fresh, and so does a complete one. -/
theorem fresh_withLast_iff (kept : List Bar) (bar : Bar) :
    Fresh ⟨kept ++ [bar], dropClosed s.live bar⟩ ↔
      ∀ l ∈ s.live, l.time < bar.time → bar.complete = true := by
  unfold Fresh
  simp only [List.getLast?_concat, mem_dropClosed, Option.mem_some_iff, forall_eq']
  refine forall_congr' fun l => ?_
  constructor
  · intro h hl hlt
    by_contra hopen
    rw [Bool.not_eq_true] at hopen
    exact Int64.not_lt.mpr (h ⟨hl, fun _ => hopen⟩) hlt
  · rintro h ⟨hl, hopen⟩
    refine Int64.not_lt.mp fun hlt => ?_
    exact Bool.false_ne_true ((hopen (Int64.le_of_lt hlt)).symm.trans (h hl hlt))

/-- **An update.** It puts a preview out of date exactly if it overtakes it. -/
theorem fresh_updateLast_iff (h : Fresh s) (bar : Bar) :
    Fresh (s.updateLast bar).2 ↔ (Request.updateLast bar).overtakes s = false := by
  rw [← Bool.not_eq_true, Request.overtakes_updateLast]
  have hstep := updateStep bar s
  generalize s.updateLast bar = out at hstep ⊢
  cases hstep with
  | rejected hrefuses =>
    -- the last bar is no later than the preview, so a bar that overtakes this one is not too old
    refine iff_of_true h ?_
    rintro ⟨hfinite, -, l, hl, hlt⟩
    obtain ⟨last, hlast, hold⟩ := hrefuses hfinite
    exact Int64.not_lt.mpr (h l hl last hlast) (Int64.lt_trans hlt hold)
  | replaced _ _ hfinite | appended hfinite =>
    rw [fresh_withLast_iff]
    constructor
    · rintro hfresh ⟨-, hopen, l, hl, hlt⟩
      exact Bool.false_ne_true (hopen.symm.trans (hfresh l hl hlt))
    · intro hnot l hl hlt
      by_contra hopen
      exact hnot ⟨hfinite, Bool.not_eq_true _ |>.mp hopen, l, hl, hlt⟩

theorem fresh_setLive (h : Fresh s) (bar : Bar) : Fresh (s.setLive bar).2 := by
  have hstep := previewStep bar s
  generalize s.setLive bar = out at hstep ⊢
  cases hstep with
  | refused => exact h
  | taken _ hlater =>
    rintro l ⟨⟩
    exact hlater

/-- **One request.** Of all requests only such an update puts a preview out of date. -/
theorem fresh_serve_iff (h : Fresh s) (r : Request) :
    Fresh (s.serve r) ↔ r.overtakes s = false := by
  cases r with
  | updateLast bar => exact fresh_updateLast_iff h bar
  | setBars bars => exact iff_of_true (fun l hl => (mem_dropStale.mp hl).2) rfl
  | setLive bar => exact iff_of_true (fresh_setLive h bar) rfl
  | clearLive | clear => exact iff_of_true (fun l hl => nomatch hl) rfl

/-- No complete bar is later than the preview. -/
def Ahead (s : BarSeries) : Prop :=
  ∀ l ∈ s.live, ∀ b ∈ s.bars, b.complete = true → b.time ≤ l.time

/-- In a time series the last bar stands for all of them. -/
theorem ahead_of_fresh (hsound : Sound s) (h : Fresh s) : Ahead s := by
  intro l hl b hb _
  cases hlast : s.bars.getLast? with
  | none => rw [List.getLast?_eq_none_iff.mp hlast] at hb; cases hb
  | some last => exact Int64.le_trans (hsound.inOrder.le_last hlast b hb) (h l hl last hlast)

/-- A complete bar drops the preview that it is later than. -/
theorem Ahead.withLast (h : Ahead s) {kept : List Bar} (hkept : ∀ b ∈ kept, b ∈ s.bars)
    (bar : Bar) : Ahead ⟨kept ++ [bar], dropClosed s.live bar⟩ := by
  intro l hl b hb hcomplete
  obtain ⟨hl, hopen⟩ := mem_dropClosed.mp hl
  rcases List.mem_append.mp hb with hb | hb
  · exact h l hl b (hkept b hb) hcomplete
  · rw [List.mem_singleton.mp hb] at hcomplete ⊢
    refine Int64.le_of_lt (Int64.not_le.mp fun hle => ?_)
    exact Bool.false_ne_true ((hopen hle).symm.trans hcomplete)

theorem Ahead.updateLast (h : Ahead s) (bar : Bar) : Ahead (s.updateLast bar).2 := by
  have hstep := updateStep bar s
  generalize s.updateLast bar = out at hstep ⊢
  cases hstep with
  | rejected => exact h
  | replaced earlier last _ hbars =>
    refine h.withLast (fun b hb => ?_) bar
    rw [hbars]
    exact List.mem_append_left _ hb
  | appended => exact h.withLast (fun _ hb => hb) bar

/-- **One request.** Whatever it is, no complete bar gets later than the preview. -/
theorem Ahead.serve (h : Ahead s) (hsound : Sound s) (r : Request) : Ahead (s.serve r) := by
  have hsound' := hsound.serve r
  cases r with
  | updateLast bar => exact h.updateLast bar
  | setBars bars => exact ahead_of_fresh hsound' fun l hl => (mem_dropStale.mp hl).2
  | setLive bar =>
    have hstep := previewStep bar s
    change Ahead (s.setLive bar).2
    change Sound (s.setLive bar).2 at hsound'
    generalize s.setLive bar = out at hstep hsound' ⊢
    cases hstep with
    | refused => exact h
    | taken _ hlater =>
      refine ahead_of_fresh hsound' ?_
      rintro l ⟨⟩
      exact hlater
  | clearLive | clear => exact fun l hl => nomatch hl

/-! ## Any run -/

theorem ahead_run (requests : List Request) : Ahead (afterAll requests) := by
  induction requests using List.reverseRecOn with
  | nil => exact fun l hl => nomatch hl
  | append_singleton requests r ih =>
    rw [afterAll_append_singleton]
    exact ih.serve (sound_run requests) r

/-- As long as no update overtakes the preview, it is fresh at the end. -/
theorem fresh_run {requests : List Request}
    (h : ∀ past r, past ++ [r] <+: requests → r.overtakes (afterAll past) = false) :
    Fresh (afterAll requests) := by
  induction requests using List.reverseRecOn with
  | nil => exact fun l hl => nomatch hl
  | append_singleton requests r ih =>
    have hfresh := ih fun past r' hpast => h past r' (hpast.trans (List.prefix_append _ _))
    rw [afterAll_append_singleton]
    exact (fresh_serve_iff hfresh r).mpr (h requests r (List.prefix_refl _))

/-- The close of a finite preview is the reference price. -/
theorem reference?_of_preview {l : Bar} (hl : l ∈ s.live) (hfinite : l.isFinite = true) :
    s.reference? = some l.closePrice := by
  have hclose : l.closePrice.isFinite = true := (Bool.and_eq_true_iff.mp hfinite).2
  unfold reference?
  rw [Option.mem_def.mp hl]
  simp [Option.filter, hclose]

/-- **Fresh previews.** In a run the preview is no older than the last bar at any time exactly if no
update brings an incomplete bar that is later than the preview held then. Whatever the run, a
preview is never older than a complete bar, and it is what the reference price is taken from. -/
theorem fresh_throughout_iff (requests : List Request) :
    ((∀ past, past <+: requests → Fresh (afterAll past)) ↔
        ∀ past r, past ++ [r] <+: requests → r.overtakes (afterAll past) = false) ∧
      ∀ l ∈ (afterAll requests).live,
        (afterAll requests).reference? = some l.closePrice ∧
          ∀ b ∈ (afterAll requests).bars, b.complete = true → b.time ≤ l.time := by
  refine ⟨⟨fun h past r hpast => ?_, fun h past hpast => ?_⟩, fun l hl => ⟨?_, ?_⟩⟩
  · have hafter := h _ hpast
    rw [afterAll_append_singleton] at hafter
    exact (fresh_serve_iff (h past ((List.prefix_append _ _).trans hpast)) r).mp hafter
  · exact fresh_run fun past' r hpast' => h past' r (hpast'.trans hpast)
  · exact reference?_of_preview hl ((sound_run requests).liveFinite l hl)
  · exact ahead_run requests l hl

/-- **A preview left behind.** The bar after the one that it stands for comes in incomplete: the
preview is kept, and the reference price is its close. -/
theorem preview_overtaken :
    let s := afterAll
      [.setBars [⟨0, 100.0, 101.0, 99.0, 100.0, 1.0, true⟩],
        .setLive ⟨900, 500.0, 501.0, 499.0, 500.0, 1.0, false⟩,
        .updateLast ⟨1800, 100.0, 101.0, 99.0, 100.0, 1.0, false⟩]
    s.live.map (fun l => l.time) = some 900 ∧ s.bars.getLast?.map (fun b => b.time) = some 1800 ∧
      s.reference? = some 500.0 ∧ ¬Fresh s := by
  decide +kernel

end ChartLayer.BarSeries
