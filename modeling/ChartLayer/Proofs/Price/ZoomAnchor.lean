import ChartLayer.Proofs.Price.ExactRange
import ChartLayer.Proofs.Price.WheelZoom

/-!
# The price under the pointer stays there

A zoom multiplies the distances from the price at the pointer by its factor. When nothing is
rounded, the pane then shows that price where it did before, unless the range came out narrower than
the least span and had to be spread, or the pointer was outside the pane. `Zoomed` says what holds
in each case.

* `exists_zoomed`: a zoom by any positive factor.
* `exists_zoomed_of_wheel`: a wheel on the axis.
* `zoom_holds_price`: both.
-/

namespace ChartLayer

open PriceRange (leastSpan)

/-- What a zoom by some factor makes of a range, about the price at the pixel `y` of a pane of
height `h` that shows it. -/
structure Zoomed (h : ℝ) (r : PriceRange ℝ) (y price factor : ℝ) (next : PriceRange ℝ) : Prop where
  price_at : (PriceMap.linear (some h) (some r)).priceAt y = some price
  contains : next.min ≤ Quantity.clamp price r.min r.max ∧
    Quantity.clamp price r.min r.max ≤ next.max
  not_wider : factor < 1 → next.span ≤ r.span
  not_narrower : 1 < factor → r.span ≤ next.span
  span : leastSpan ≤ factor * r.span → next.span = factor * r.span
  /-- The price at the pointer is drawn at the pointer. -/
  held : leastSpan ≤ factor * r.span → 0 ≤ y → y ≤ h →
    (PriceMap.linear (some h) (some next)).pixelOf price = some y

variable {h : ℝ} {r : PriceRange ℝ}

/-! ## A zoom by some factor -/

namespace PriceRange

variable {anchor factor : ℝ} {next : PriceRange ℝ}

/-- Distances from a price in the range multiplied by a factor. -/
noncomputable def scaled (r : PriceRange ℝ) (anchor factor : ℝ) : PriceRange ℝ :=
  ⟨anchor - (anchor - r.min) * factor, anchor + (r.max - anchor) * factor⟩

theorem span_scaled (r : PriceRange ℝ) (anchor factor : ℝ) :
    (r.scaled anchor factor).span = factor * r.span := by
  rw [span_exact, span_exact]
  unfold scaled
  ring

theorem scaled_contains (hmin : r.min ≤ anchor) (hmax : anchor ≤ r.max) (hfactor : 0 < factor) :
    (r.scaled anchor factor).min ≤ anchor ∧ anchor ≤ (r.scaled anchor factor).max := by
  have hbelow : 0 ≤ (anchor - r.min) * factor := mul_nonneg (sub_nonneg.mpr hmin) hfactor.le
  have habove : 0 ≤ (r.max - anchor) * factor := mul_nonneg (sub_nonneg.mpr hmax) hfactor.le
  exact ⟨sub_le_self _ hbelow, le_add_of_nonneg_right habove⟩

/-- A range that comes out narrower than the least span is spread around its middle. -/
theorem exists_of?_scaled (hmin : r.min ≤ anchor) (hmax : anchor ≤ r.max) (hfactor : 0 < factor) :
    ∃ next, of? (r.scaled anchor factor).min (r.scaled anchor factor).max = some next ∧
      next.min ≤ anchor ∧ anchor ≤ next.max ∧
      (leastSpan ≤ factor * r.span → next = r.scaled anchor factor) ∧
      (factor * r.span < leastSpan → next.span = leastSpan) := by
  obtain ⟨hlow, hhigh⟩ := scaled_contains hmin hmax hfactor
  have hspan := span_scaled r anchor factor
  rw [span_exact] at hspan
  generalize r.scaled anchor factor = target at hlow hhigh hspan ⊢
  rcases le_or_gt leastSpan (factor * r.span) with hwide | hnarrow
  · exact ⟨target, of?_of_apart (hspan ▸ hwide), hlow, hhigh, fun _ => rfl,
      fun hnarrow => absurd hwide hnarrow.not_ge⟩
  · have hclose : target.max - target.min < leastSpan := hspan ▸ hnarrow
    refine ⟨_, of?_of_close (hlow.trans hhigh) hclose, ?_, ?_, ?_, ?_⟩
    · change (target.min + target.max) / 2 - leastSpan / 2 ≤ anchor
      linarith
    · change anchor ≤ (target.min + target.max) / 2 + leastSpan / 2
      linarith
    · exact fun hwide => absurd hwide hnarrow.not_ge
    · intro _
      rw [span_exact]
      ring

end PriceRange

/-- A pixel of the pane is one of its prices. -/
theorem price_mem (hends : r.min ≤ r.max) (hpos : 0 < h) {y : ℝ} (hfrom : 0 ≤ y) (hto : y ≤ h) :
    r.min ≤ r.max - y / h * r.span ∧ r.max - y / h * r.span ≤ r.max := by
  have hspan : 0 ≤ r.span := sub_nonneg.mpr hends
  have hshare : y / h ≤ 1 := (div_le_one hpos).mpr hto
  have hpart : 0 ≤ y / h * r.span := mul_nonneg (div_nonneg hfrom hpos.le) hspan
  have hwhole : y / h * r.span ≤ r.span := mul_le_of_le_one_left hspan hshare
  rw [PriceRange.span_exact] at hpart hwhole ⊢
  constructor <;> linarith

/-- The pixel of the price that the zoom is about. -/
theorem pixelOf_scaled (hpos : 0 < h) (hspan : 0 < r.span) {factor : ℝ} (hfactor : 0 < factor)
    (y : ℝ) :
    (PriceMap.linear (some h) (some (r.scaled (r.max - y / h * r.span) factor))).pixelOf
      (r.max - y / h * r.span) = some y := by
  rw [PriceMap.linear_pixelOf hpos, PriceRange.span_scaled]
  have hheight : h ≠ 0 := hpos.ne'
  have hfactor' : factor ≠ 0 := hfactor.ne'
  have hspan' : r.span ≠ 0 := hspan.ne'
  congr 1
  unfold PriceRange.scaled
  field_simp
  ring

/-- **A zoom by some factor**, at any pixel, also outside the pane. -/
theorem exists_zoomed (hspan : leastSpan ≤ r.span) (hpos : 0 < h) (y : ℝ) {factor : ℝ}
    (hfactor : 0 < factor) :
    ∃ price next, r.zoomAbout? price factor = some next ∧ Zoomed h r y price factor next := by
  have hwide : 0 < r.span := PriceRange.span_pos hspan
  have hends : r.min ≤ r.max := (sub_pos.mp hwide).le
  have hprice := PriceMap.linear_priceAt hpos r y
  generalize heq : r.max - y / h * r.span = price at hprice
  obtain ⟨hmin, hmax⟩ := PriceRange.clamp_mem hends price
  obtain ⟨next, hnext, hlow, hhigh, hexact, hspread⟩ :=
    PriceRange.exists_of?_scaled hmin hmax hfactor
  have hzoom : r.zoomAbout? price factor = some next :=
    (PriceRange.zoomAbout?_exact r price hfactor).trans hnext
  refine ⟨price, next, hzoom, hprice, ⟨hlow, hhigh⟩, ?_, ?_, ?_, ?_⟩
  · intro hin
    rcases le_or_gt leastSpan (factor * r.span) with hkept | hnarrow
    · rw [hexact hkept, PriceRange.span_scaled]
      exact mul_le_of_le_one_left hwide.le hin.le
    · rw [hspread hnarrow]
      exact hspan
  · intro hout
    have hgrown : r.span ≤ factor * r.span := le_mul_of_one_le_left hwide.le hout.le
    rw [hexact (hspan.trans hgrown), PriceRange.span_scaled]
    exact hgrown
  · intro hkept
    rw [hexact hkept, PriceRange.span_scaled]
  · intro hkept hfrom hto
    obtain ⟨hmin, hmax⟩ := price_mem hends hpos hfrom hto
    rw [heq] at hmin hmax
    rw [hexact hkept, PriceRange.clamp_of_mem hmin hmax, ← heq]
    exact pixelOf_scaled hpos hwide hfactor y

/-! ## A wheel on the axis -/

namespace PriceScale

variable {s : PriceScale ℝ}

/-- Toward the chart or away from it, the factor of a zoom is positive. -/
theorem zoomFactor_pos (delta exponent : ℝ) : 0 < zoomFactor delta exponent := by
  unfold zoomFactor
  split
  · exact Real.exp_pos _
  · exact Real.exp_pos _

theorem zoomExponent_exact (rules : GestureRules ℝ) (delta : ℝ) :
    zoomExponent rules delta = min |delta| rules.wheelCap * rules.zoomIntensity :=
  congrArg (· * rules.zoomIntensity) (smaller_real |delta| rules.wheelCap)

/-- A wheel that turns has an exponent, when the settings make sense. -/
theorem zoomExponent_pos {rules : GestureRules ℝ} (hcap : 0 < rules.wheelCap)
    (hintensity : 0 < rules.zoomIntensity) {delta : ℝ} (hdelta : delta ≠ 0) :
    0 < zoomExponent rules delta := by
  rw [zoomExponent_exact]
  exact mul_pos (lt_min (abs_pos.mpr hdelta) hcap) hintensity

theorem exists_zoomed_of_wheel (hspan : leastSpan ≤ r.span) (hpos : 0 < h)
    (hshown : s.effective = some r) {delta : ℝ} (hturns : 0 < zoomExponent s.rules delta) (y : ℝ)
    (modifier : Bool) :
    ∃ price next,
      (s.handle (.wheel y delta modifier .priceAxis) (.linear (some h) (some r))).2.manual =
        some next ∧
      Zoomed h r y price (zoomFactor delta (zoomExponent s.rules delta)) next := by
  obtain ⟨price, next, hnext, hzoomed⟩ := exists_zoomed hspan hpos y
    (zoomFactor_pos delta (zoomExponent s.rules delta))
  have hexponent : (0.0 : ℝ) < zoomExponent s.rules delta := by norm_num [hturns]
  refine ⟨price, next, ?_, hzoomed⟩
  rw [manual_of_turned hexponent hshown hzoomed.price_at, hnext, Option.some_or]

/-- **Zooming about the pointer.** A pane of positive height shows the range of the scale, and
nothing is rounded. A zoom by any positive factor at any pixel keeps the price there, moved into the
range, in view, and does not widen when it should narrow, or the other way round. If the least span
leaves room, the span is multiplied by the factor, and at a pixel of the pane the price there stays
there. That is what a wheel on the axis does that turns, as every wheel but that of nothing does
when the settings make sense. -/
theorem zoom_holds_price {r : PriceRange ℝ} (hspan : leastSpan ≤ r.span) {h : ℝ} (hpos : 0 < h) :
    (∀ y factor : ℝ, 0 < factor →
      ∃ price next, r.zoomAbout? price factor = some next ∧ Zoomed h r y price factor next) ∧
    (∀ s : PriceScale ℝ, s.effective = some r → ∀ (y delta : ℝ) (modifier : Bool),
      let exponent := zoomExponent s.rules delta
      let after := (s.handle (.wheel y delta modifier .priceAxis) (.linear (some h) (some r))).2
      (0 < s.rules.wheelCap → 0 < s.rules.zoomIntensity → delta ≠ 0 → 0 < exponent) ∧
      (0 < exponent → ∃ price next, after.manual = some next ∧
        Zoomed h r y price (zoomFactor delta exponent) next)) := by
  constructor
  · intro y factor hfactor
    exact exists_zoomed hspan hpos y hfactor
  · intro s hshown y delta modifier exponent after
    exact ⟨fun hcap hintensity hdelta => zoomExponent_pos hcap hintensity hdelta,
      fun hturns => exists_zoomed_of_wheel hspan hpos hshown hturns y modifier⟩

/-- A scale with prices from 100 to 110. -/
noncomputable def exactTens : PriceScale ℝ := { rules := .exact, auto := some .tens }

/-- A wheel toward the chart, halfway down a pane of 500 pixels. -/
theorem zoom_holds_price_halfway :
    ∃ next : PriceRange ℝ,
      (exactTens.handle (.wheel 250 (-100) false .priceAxis)
        (.linear (some 500) (some .tens))).2.manual = some next ∧
      next.span ≤ 10 ∧ (PriceMap.linear (some 500) (some next)).pixelOf 105 = some 250 := by
  have hspan := PriceRange.leastSpan_le_span_tens
  obtain ⟨hturns, hzooms⟩ :=
    (zoom_holds_price hspan (h := 500) (by norm_num)).2 exactTens rfl 250 (-100) false
  obtain ⟨price, next, hnext, hzoomed⟩ := hzooms
    (hturns (show (0 : ℝ) < 120.0 by norm_num) (show (0 : ℝ) < 0.002 by norm_num) (by norm_num))
  have hprice : price = 105 := by
    have hat := (PriceMap.linear_priceAt (h := 500) (by norm_num) .tens 250).symm.trans
      hzoomed.price_at
    rw [PriceRange.span_tens, PriceRange.tens] at hat
    cases hat
    norm_num
  have hfactor : zoomFactor (-100) (zoomExponent exactTens.rules (-100)) = Real.exp (-0.2) := by
    have hexponent : zoomExponent exactTens.rules (-100) = 0.2 := by
      rw [zoomExponent_exact]
      change min |(-100 : ℝ)| 120.0 * 0.002 = 0.2
      norm_num
    rw [hexponent]
    exact if_pos (show (-100 : ℝ) < 0.0 by norm_num)
  rw [hfactor] at hzoomed
  have hin : Real.exp (-0.2) < 1 := Real.exp_lt_one_iff.mpr (by norm_num)
  have hroom : leastSpan ≤ Real.exp (-0.2) * PriceRange.tens.span := by
    have hbound := Real.add_one_le_exp (-0.2 : ℝ)
    have hleast : (leastSpan : ℝ) ≤ 8 := by
      change (1e-8 : ℝ) ≤ 8
      norm_num
    rw [PriceRange.span_tens]
    linarith
  refine ⟨next, hnext, ?_, ?_⟩
  · rw [← PriceRange.span_tens]
    exact hzoomed.not_wider hin
  · rw [← hprice]
    exact hzoomed.held hroom (by norm_num) (by norm_num)

end PriceScale

end ChartLayer
