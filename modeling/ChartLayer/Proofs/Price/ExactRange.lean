import ChartLayer.Price.Scale
import ChartLayer.Proofs.Number.Exact
import Mathlib.Tactic.FieldSimp
import Mathlib.Tactic.Linarith
import Mathlib.Tactic.Ring

/-!
# Price ranges among the reals

What the price scale makes of ranges when nothing is rounded. Two prices always make a range: they
are its ends, or it is the least span around their middle. A pane that shows a range maps pixels to
prices and prices to pixels, and each map undoes the other.

* `of?_of_apart`, `of?_of_close`: the range between two prices.
* `exists_of?`: there always is one, and it is no narrower than the least span.
* `zoomAbout?_exact`, `movedBy?_exact`: a zoom and a pan.
* `linear_priceAt`, `linear_pixelOf`: the answers of a pane of some height.
-/

namespace ChartLayer

theorem clamp_real (x : ℝ) {low high : ℝ} (h : low ≤ high) :
    Quantity.clamp x low high = max low (min x high) :=
  (ExactQuantity.clamp_exact (a := x) rfl rfl rfl h).2

theorem smaller_real (a b : ℝ) : Quantity.smaller a b = min a b := by
  have hself : Quantity.isNumber a = true ∧ Quantity.isNumber b = true :=
    ⟨decide_eq_true rfl, decide_eq_true rfl⟩
  unfold Quantity.smaller
  rw [if_pos hself.1, hself.2, Bool.true_and]
  rcases lt_or_ge b a with hlt | hle
  · rw [min_eq_right hlt.le]
    exact if_pos (decide_eq_true hlt)
  · rw [min_eq_left hle]
    exact if_neg (by simpa using hle)

namespace PriceRange

variable {a b : ℝ} {r : PriceRange ℝ}

theorem leastSpan_pos : (0 : ℝ) < leastSpan := by
  change (0 : ℝ) < 1e-8
  norm_num

theorem span_exact (r : PriceRange ℝ) : r.span = r.max - r.min := rfl

theorem span_pos (h : leastSpan ≤ r.span) : 0 < r.span := leastSpan_pos.trans_le h

/-- Every real number is finite. -/
theorem of?_exact (a b : ℝ) : of? a b =
    (let low := if a ≤ b then a else b
    let high := if a ≤ b then b else a
    if leastSpan ≤ high - low then some ⟨low, high⟩
    else
      let mid := low + (high - low) / 2
      let near := mid - leastSpan / 2
      let far := mid + leastSpan / 2
      if far - near < leastSpan ∨ far ≤ near then widen? mid widenSteps leastSpan
      else some ⟨near, far⟩) := by
  have htwo : (2 : ℝ) = 2.0 := by norm_num
  rw [htwo]
  rfl

/-- Two prices in order, the least span apart. -/
theorem of?_of_apart (h : leastSpan ≤ b - a) : of? a b = some ⟨a, b⟩ := by
  have hle : a ≤ b := sub_nonneg.mp (leastSpan_pos.le.trans h)
  rw [of?_exact]
  simp only [if_pos hle, if_pos h]

/-- Two prices in order, closer than the least span: nothing is lost around their middle, and no
doubling is needed. -/
theorem of?_of_close (hle : a ≤ b) (h : b - a < leastSpan) :
    of? a b = some ⟨(a + b) / 2 - leastSpan / 2, (a + b) / 2 + leastSpan / 2⟩ := by
  have hmid : a + (b - a) / 2 = (a + b) / 2 := by ring
  have hkept : ¬((a + b) / 2 + leastSpan / 2 - ((a + b) / 2 - leastSpan / 2) < leastSpan ∨
      (a + b) / 2 + leastSpan / 2 ≤ (a + b) / 2 - leastSpan / 2) := by
    have hpos := leastSpan_pos
    rintro (hnarrow | hturned) <;> linarith
  rw [of?_exact]
  simp only [if_pos hle, if_neg h.not_ge, hmid, if_neg hkept]

theorem of?_comm (a b : ℝ) : of? a b = of? b a := by
  rw [of?_exact, of?_exact]
  rcases lt_trichotomy a b with hlt | rfl | hgt
  · simp only [if_pos hlt.le, if_neg hlt.not_ge]
  · rfl
  · simp only [if_pos hgt.le, if_neg hgt.not_ge]

/-- Every two prices make a range, and it is as wide as a range has to be. -/
theorem exists_of? (a b : ℝ) : ∃ r, of? a b = some r ∧ leastSpan ≤ r.span := by
  have hordered {a b : ℝ} (hle : a ≤ b) : ∃ r, of? a b = some r ∧ leastSpan ≤ r.span := by
    rcases le_or_gt leastSpan (b - a) with hapart | hclose
    · exact ⟨⟨a, b⟩, of?_of_apart hapart, hapart⟩
    · refine ⟨_, of?_of_close hle hclose, ?_⟩
      rw [span_exact]
      linarith
  rcases le_total a b with hle | hle
  · exact hordered hle
  · rw [of?_comm]
    exact hordered hle

/-! ## Zoom and pan -/

/-- A price that is moved into a range. -/
theorem clamp_mem (hends : r.min ≤ r.max) (price : ℝ) :
    r.min ≤ Quantity.clamp price r.min r.max ∧ Quantity.clamp price r.min r.max ≤ r.max := by
  rw [clamp_real price hends]
  exact ⟨le_max_left .., max_le hends (min_le_right ..)⟩

/-- A price in the range stays where it is. -/
theorem clamp_of_mem {price : ℝ} (hmin : r.min ≤ price) (hmax : price ≤ r.max) :
    Quantity.clamp price r.min r.max = price := by
  rw [clamp_real price (hmin.trans hmax), min_eq_left hmax, max_eq_right hmin]

/-- A positive factor zooms. -/
theorem zoomAbout?_exact (r : PriceRange ℝ) (price : ℝ) {factor : ℝ} (hfactor : 0 < factor) :
    r.zoomAbout? price factor =
      (let anchor := Quantity.clamp price r.min r.max
      of? (anchor - (anchor - r.min) * factor) (anchor + (r.max - anchor) * factor)) := by
  have hzero : ¬factor ≤ 0.0 := by norm_num [hfactor]
  have hpasses : ¬(!Quantity.isFinite factor || factor ≤ 0.0) = true := by
    simpa using hzero
  exact if_neg hpasses

/-- A pan keeps the span. -/
theorem movedBy?_exact (hspan : leastSpan ≤ r.span) (offset : ℝ) :
    r.movedBy? offset = some ⟨r.min + offset, r.max + offset⟩ := by
  refine of?_of_apart ?_
  rw [add_sub_add_right_eq_sub]
  exact hspan

end PriceRange

/-! ## A pane of some height -/

variable {h : ℝ}

theorem panDistance?_exact (hpos : 0 < h) (delta span factor : ℝ) :
    panDistance? delta h span factor = some (-delta / h * span * factor) := by
  have hzero : (0.0 : ℝ) < h := by norm_num [hpos]
  unfold panDistance?
  exact if_neg (by simpa using hzero)

namespace PriceMap

theorem linear_paneHeight (hpos : 0 < h) (shown : Option (PriceRange ℝ)) :
    (linear (some h) shown).paneHeight = some h := by
  have hzero : (0.0 : ℝ) < h := by norm_num [hpos]
  exact if_pos (decide_eq_true hzero)

theorem linear_priceAt (hpos : 0 < h) (r : PriceRange ℝ) (y : ℝ) :
    (linear (some h) (some r)).priceAt y = some (r.max - y / h * r.span) := by
  change (linear (some h) (some r)).paneHeight.bind (fun h => some (r.max - y / h * r.span)) = _
  rw [linear_paneHeight hpos]
  rfl

theorem linear_pixelOf (hpos : 0 < h) (r : PriceRange ℝ) (price : ℝ) :
    (linear (some h) (some r)).pixelOf price = some ((r.max - price) / r.span * h) := by
  change (linear (some h) (some r)).paneHeight.bind
    (fun h => some ((r.max - price) / r.span * h)) = _
  rw [linear_paneHeight hpos]
  rfl

end PriceMap

/-! ## The usual settings, and a range -/

noncomputable def GestureRules.exact : GestureRules ℝ where
  wheelCap := 120.0
  zoomIntensity := 0.002
  panFactor := 1.0
  dragActivation := 4.0

/-- The prices from 100 to 110. -/
noncomputable def PriceRange.tens : PriceRange ℝ := ⟨100.0, 110.0⟩

theorem PriceRange.span_tens : tens.span = 10 := by
  rw [span_exact, tens]
  norm_num

theorem PriceRange.leastSpan_le_span_tens : leastSpan ≤ tens.span := by
  rw [span_tens]
  change (1e-8 : ℝ) ≤ 10
  norm_num

end ChartLayer
