import ChartLayer.Proofs.Bar.Series
import ChartLayer.Proofs.Zone.Trust

/-!
# Kept for good

A zone is kept if the bucket from which it arose is closed, and what is closed stays closed:
complete updates only move the last complete bar forward. Times are sixty-four bits wide and the end
of the history is held at the end of their range, so a bucket that ends beyond it never counts as
closed.

* `BarSeries.Closes`: how far a history is closed, in plain integers.
* `Closes.updateLast`, `Closes.updates`: one complete update, and any run of them.
* `keepTruthful_eq_filter`: which zones are kept.
* `kept_for_good`: the same for any history, and that they stay.
-/

namespace ChartLayer

/-- The length of a known spacing. An unknown one adds nothing to the last bar. -/
def spacingLength (granularity : Option Timeframe) : Int :=
  granularity.elim 0 fun tf => tf.secs.toInt

/-- The end of the bucket that begins at the origin of a zone, time or not. -/
def Zone.bucketStop (z : Zone) : Int := z.originTime.toInt + z.timeframe.secs.toInt

namespace BarSeries

/-- There is a complete bar, and the last one ends no earlier than `stop`. -/
def Closes (s : BarSeries) (granularity : Option Timeframe) (stop : Int) : Prop :=
  ∃ last ∈ s.bars, last.complete = true ∧
    (∀ b ∈ s.bars, b.complete = true → b.time ≤ last.time) ∧
    stop ≤ last.time.toInt + spacingLength granularity

instance (s : BarSeries) (granularity : Option Timeframe) (stop : Int) :
    Decidable (s.Closes granularity stop) :=
  inferInstanceAs (Decidable (∃ last ∈ s.bars, _ ∧ _ ∧ _))

variable {s : BarSeries} {granularity : Option Timeframe} {stop : Int}

/-! ## The last complete bar -/

/-- What is found from the end is a complete bar, and of the complete bars the latest. -/
theorem latest_of_lastClosed? (h : Chronological s.bars) {last : Bar}
    (hlast : s.lastClosed? = some last) :
    last ∈ s.bars ∧ last.complete = true ∧
      ∀ b ∈ s.bars, b.complete = true → b.time ≤ last.time := by
  obtain ⟨hcomplete, behind, before, hreverse, hopen⟩ := List.find?_eq_some_iff_append.mp hlast
  have hbars : s.bars = before.reverse ++ last :: behind.reverse := by
    rw [← List.reverse_reverse s.bars, hreverse]
    simp
  have hmem : last ∈ s.bars := by simp [hbars]
  refine ⟨hmem, hcomplete, fun b hb hclosed => ?_⟩
  rw [hbars] at h hb
  obtain ⟨-, -, hbefore⟩ := List.pairwise_append.mp h
  rcases List.mem_append.mp hb with hb | hb
  · exact Int64.le_of_lt (hbefore b hb last List.mem_cons_self)
  rcases List.mem_cons.mp hb with rfl | hb
  · exact Int64.le_refl _
  · -- none of the bars behind it is complete
    have := hopen b (List.mem_reverse.mp hb)
    simp [hclosed] at this

/-- Where a bar is complete, one is found. -/
theorem exists_lastClosed? {b : Bar} (hb : b ∈ s.bars) (hcomplete : b.complete = true) :
    ∃ last, s.lastClosed? = some last := by
  rw [← Option.isSome_iff_exists, lastClosed?, List.find?_isSome]
  exact ⟨b, List.mem_reverse.mpr hb, hcomplete⟩

/-- Any complete bar that ends late enough will do. -/
theorem closes_iff (h : Chronological s.bars) :
    s.Closes granularity stop ↔
      ∃ b ∈ s.bars, b.complete = true ∧ stop ≤ b.time.toInt + spacingLength granularity := by
  constructor
  · rintro ⟨last, hmem, hcomplete, -, hstop⟩
    exact ⟨last, hmem, hcomplete, hstop⟩
  · rintro ⟨b, hb, hcomplete, hstop⟩
    obtain ⟨last, hlast⟩ := exists_lastClosed? hb hcomplete
    obtain ⟨hmem, hclosed, hlatest⟩ := latest_of_lastClosed? h hlast
    have hle := Int64.le_iff_toInt_le.mp (hlatest b hb hcomplete)
    exact ⟨last, hmem, hclosed, hlatest, by omega⟩

/-- How far the history is closed: to the end of the last complete bar, or to the last of times. -/
theorem closedThrough?_eq_some_iff {closed : Time} :
    closedThrough? s granularity = some closed ↔ ∃ last, s.lastClosed? = some last ∧
      closed.toInt = min (last.time.toInt + spacingLength granularity) Int64.maxValue.toInt := by
  have hmax : Int64.maxValue.toInt = 2 ^ 63 - 1 := rfl
  unfold closedThrough?
  rw [Option.map_eq_some_iff]
  refine exists_congr fun last => and_congr_right fun _ => ?_
  have hleast := Int64.le_toInt last.time
  have hmost := Int64.toInt_lt last.time
  rw [← Int64.toInt_inj]
  cases granularity with
  | none =>
    change last.time.toInt = closed.toInt ↔ closed.toInt = min (last.time.toInt + 0) _
    omega
  | some tf =>
    have hpositive : 0 < tf.secs.toInt := Int64.lt_iff_toInt_lt.mp tf.positive
    have hheld := Int64.toInt_ofInt_of_le
      (n := min (last.time.toInt + tf.secs.toInt) Int64.maxValue.toInt) (by omega) (by omega)
    dsimp only
    rw [hheld]
    exact eq_comm

/-- A bucket ends within the closed history if a complete bar closes it and its end is a time. -/
theorem le_closedThrough?_iff (h : Chronological s.bars) :
    (∃ closed ∈ closedThrough? s granularity, stop ≤ closed.toInt) ↔
      s.Closes granularity stop ∧ stop ≤ Int64.maxValue.toInt := by
  constructor
  · rintro ⟨closed, hclosed, hstop⟩
    obtain ⟨last, hlast, heq⟩ := closedThrough?_eq_some_iff.mp hclosed
    obtain ⟨hmem, hcomplete, hlatest⟩ := latest_of_lastClosed? h hlast
    exact ⟨⟨last, hmem, hcomplete, hlatest, by omega⟩, by omega⟩
  · rintro ⟨⟨last, hmem, hcomplete, hlatest, hstop⟩, hmax⟩
    obtain ⟨found, hfound⟩ := exists_lastClosed? hmem hcomplete
    obtain ⟨-, -, hlatest'⟩ := latest_of_lastClosed? h hfound
    obtain ⟨closed, hclosed⟩ : ∃ closed, closedThrough? s granularity = some closed :=
      ⟨_, congrArg (Option.map _) hfound⟩
    refine ⟨closed, hclosed, ?_⟩
    obtain ⟨last', hlast', heq⟩ := closedThrough?_eq_some_iff.mp hclosed
    cases hfound.symm.trans hlast'
    have hle := Int64.le_iff_toInt_le.mp (hlatest' last hmem hcomplete)
    omega

/-! ## Updates -/

/-- **One complete update.** It is rejected, or it is the last complete bar from then on. -/
theorem Closes.updateLast (h : s.Closes granularity stop) (hsound : Sound s) {bar : Bar}
    (hcomplete : bar.complete = true) : (s.updateLast bar).2.Closes granularity stop := by
  rw [closes_iff (hsound.updateLast bar).inOrder]
  obtain ⟨last, hmem, hclosed, -, hstop⟩ := h
  have hstep := updateStep bar s
  generalize s.updateLast bar = out at hstep ⊢
  cases hstep with
  | rejected => exact ⟨last, hmem, hclosed, hstop⟩
  | appended => exact ⟨last, List.mem_append_left _ hmem, hclosed, hstop⟩
  | replaced earlier replaced _ hbars htime =>
    rw [hbars] at hmem
    rcases List.mem_append.mp hmem with hmem | hmem
    · exact ⟨last, List.mem_append_left _ hmem, hclosed, hstop⟩
    · -- the bar that is replaced was the last complete one, and its time stays
      rw [List.mem_singleton.mp hmem, htime] at hstop
      exact ⟨bar, List.mem_append_right _ (List.mem_singleton.mpr rfl), hcomplete, hstop⟩

/-- **Any run of complete updates.** -/
theorem Closes.updates {history : List Request} (h : (afterAll history).Closes granularity stop)
    {updates : List Bar} (hcomplete : ∀ b ∈ updates, b.complete = true) :
    (afterAll (history ++ updates.map .updateLast)).Closes granularity stop := by
  induction updates using List.reverseRecOn with
  | nil => simpa using h
  | append_singleton updates bar ih =>
    rw [List.map_append, ← List.append_assoc]
    change (afterAll (_ ++ [.updateLast bar])).Closes granularity stop
    rw [afterAll_append_singleton]
    refine (ih fun b hb => hcomplete b (List.mem_append_left _ hb)).updateLast (sound_run _) ?_
    exact hcomplete bar (List.mem_append_right _ (List.mem_singleton.mpr rfl))

end BarSeries

/-! ## What is kept -/

/-- The origin of a zone begins a bucket of its timeframe, and the history is closed by its end. -/
def Zone.ClosedIn (s : BarSeries) (granularity : Option Timeframe) (z : Zone) : Prop :=
  z.timeframe.secs.toInt ∣ z.originTime.toInt ∧ s.Closes granularity z.bucketStop

instance (s : BarSeries) (granularity : Option Timeframe) (z : Zone) :
    Decidable (z.ClosedIn s granularity) :=
  inferInstanceAs (Decidable (_ ∧ _))

theorem Zone.any_isTruthful_iff {s : BarSeries} (h : Chronological s.bars)
    (granularity : Option Timeframe) (z : Zone) :
    (closedThrough? s granularity).any z.isTruthful = true ↔
      z.ClosedIn s granularity ∧ z.bucketStop ≤ Int64.maxValue.toInt := by
  unfold ClosedIn
  rw [and_assoc, ← BarSeries.le_closedThrough?_iff h, Option.any_eq_true]
  simp only [Zone.isTruthful_iff]
  constructor
  · rintro ⟨closed, hclosed, hdvd, hstop⟩
    exact ⟨hdvd, closed, hclosed, hstop⟩
  · rintro ⟨hdvd, closed, hclosed, hstop⟩
    exact ⟨closed, hclosed, hdvd, hstop⟩

theorem keepTruthful_eq_filter {s : BarSeries} (h : Chronological s.bars)
    (granularity : Option Timeframe) (zones : List Zone) :
    (keepTruthful zones (closedThrough? s granularity)).1 =
      zones.filter fun z =>
        z.ClosedIn s granularity ∧ z.bucketStop ≤ Int64.maxValue.toInt := by
  refine List.filter_congr fun z _ => ?_
  rw [Bool.eq_iff_iff, decide_eq_true_iff]
  exact z.any_isTruthful_iff h granularity

/-- **Kept for good.** After any requests, and for any spacing of the bars, those zones are kept, in
order, of which the timeframe divides the origin, and the bucket from there on ends at a time and no
later than the last complete bar; the others are counted. Complete updates from there on, taken or
rejected, take none of them away. -/
theorem kept_for_good (history : List BarSeries.Request) (granularity : Option Timeframe)
    (zones : List Zone) :
    let gate (s : BarSeries) := keepTruthful zones (closedThrough? s granularity)
    let s := BarSeries.afterAll history
    (gate s).1 = zones.filter (fun z =>
        z.ClosedIn s granularity ∧ z.bucketStop ≤ Int64.maxValue.toInt) ∧
      (gate s).1.length + (gate s).2 = zones.length ∧
      ∀ updates : List Bar, (∀ b ∈ updates, b.complete = true) →
        (gate s).1.Sublist (gate (BarSeries.afterAll (history ++ updates.map .updateLast))).1 := by
  intro gate s
  have hkept (requests : List BarSeries.Request) := keepTruthful_eq_filter
    (BarSeries.sound_run requests).inOrder granularity zones
  refine ⟨hkept history, ?_, fun updates hcomplete => ?_⟩
  · have hle : (gate s).1.length ≤ zones.length := List.length_filter_le _ _
    change (gate s).1.length + (zones.length - (gate s).1.length) = zones.length
    omega
  · change ((keepTruthful zones _).1).Sublist (keepTruthful zones _).1
    rw [hkept history, hkept]
    refine List.monotone_filter_right zones fun z hz => ?_
    obtain ⟨⟨hdvd, hcloses⟩, hfits⟩ := of_decide_eq_true hz
    exact decide_eq_true ⟨⟨hdvd, hcloses.updates hcomplete⟩, hfits⟩

/-- A zone that arose in the quarter of an hour from `origin` on. -/
def zoneOfQuarter (id : String) (origin : Time) : Zone where
  id := id
  min := 1.0
  max := 2.0
  direction := .bullish
  kind := .demand
  role := .entry
  state := .fresh
  score := 0.0
  timeframe := quarterHour
  originTime := origin

/-- A bar at one price. -/
def flatBar (time : Time) (price : Float) (complete : Bool) : Bar :=
  ⟨time, price, price, price, price, 0.0, complete⟩

/-- The bar that forms is completed, one comes too late, and one closes all times there are. The
bucket of the last zone ends beyond them. -/
theorem kept_to_the_end_of_times :
    let history := [.setBars [flatBar 0 1.0 true], .updateLast (flatBar 900 1.0 false)]
    let updates := [flatBar 900 2.0 true, flatBar 0 3.0 true, flatBar Int64.maxValue 4.0 true]
    let final := BarSeries.afterAll (history ++ updates.map .updateLast)
    let gate (s : BarSeries) := keepTruthful
      [zoneOfQuarter "first" 0, zoneOfQuarter "askew" 1, zoneOfQuarter "second" 900,
        zoneOfQuarter "last" 9223372036854775800] (closedThrough? s (some quarterHour))
    (∀ b ∈ updates, b.complete = true) ∧
      (gate (BarSeries.afterAll history)).1.map (·.id) = ["first"] ∧
      (gate final).1.map (·.id) = ["first", "second"] ∧
      (zoneOfQuarter "last" 9223372036854775800).ClosedIn final (some quarterHour) ∧
      (gate (BarSeries.afterAll history)).1.Sublist (gate final).1 := by
  intro history updates final gate
  have hcomplete : ∀ b ∈ updates, b.complete = true := by decide
  obtain ⟨-, -, hstay⟩ := kept_for_good history (some quarterHour)
    [zoneOfQuarter "first" 0, zoneOfQuarter "askew" 1, zoneOfQuarter "second" 900,
      zoneOfQuarter "last" 9223372036854775800]
  exact ⟨hcomplete, by decide +kernel, by decide +kernel, by decide +kernel,
    hstay updates hcomplete⟩

end ChartLayer
