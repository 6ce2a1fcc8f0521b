import ChartLayer.Proofs.Layer.WheelBursts
import ChartLayer.Proofs.Number.Product
import ChartLayer.Proofs.Price.WheelZoom
import ChartLayer.Settings.Basic

/-!
# Which way a wheel zooms

Toward the chart a wheel zooms in, away from it out, and never by more than the cap allows. The
guard that keeps other wheels out looks at the exponent, which is worked out from the smaller of the
cap and the size of the turn. But of NaN and the cap the smaller one is the cap: a wheel of NaN
passes the guard and zooms out as far as any wheel can. And since a sum with NaN is NaN, one such
turn is enough to make a whole burst do so.

* `exponent_of_number`: wheels that are numbers.
* `exponent_of_nan`, `whole?_of_nan`: those that are not.
* `wheel_zooms_by_direction`: both, for whatever range the wheel leaves behind.
* `nan_zooms_out`: the range after a wheel of NaN.
-/

namespace ChartLayer

open Quantity (smaller)

/-! ## Bursts with NaN -/

namespace WheelTurn

theorem isNumber_of_foldl {deltas : List Float} {first : Float}
    (h : IsNumber (deltas.foldl (· + ·) first)) : IsNumber first ∧ ∀ d ∈ deltas, IsNumber d := by
  induction deltas generalizing first with
  | nil => exact ⟨h, fun _ hd => nomatch hd⟩
  | cons d rest ih =>
    obtain ⟨hsum, hrest⟩ := ih h
    obtain ⟨hfirst, hd⟩ := hsum.of_add
    exact ⟨hfirst, List.forall_mem_cons.mpr ⟨hd, hrest⟩⟩

theorem isNumber_of_total {deltas : List Float} (h : IsNumber (total deltas)) :
    ∀ d ∈ deltas, IsNumber d := by
  cases deltas with
  | nil => exact fun _ hd => nomatch hd
  | cons first rest => exact List.forall_mem_cons.mpr (isNumber_of_foldl h)

/-- One turn of NaN is enough for a run. -/
theorem whole?_of_nan {run : List WheelTurn} {turn whole : WheelTurn} (hturn : turn ∈ run)
    (hnan : ¬IsNumber turn.delta) (hwhole : whole? run = some whole) : ¬IsNumber whole.delta := by
  obtain ⟨last, -, rfl⟩ := Option.map_eq_some_iff.mp hwhole
  intro htotal
  exact hnan (isNumber_of_total htotal _ (List.mem_map_of_mem hturn))

end WheelTurn

namespace PriceScale

/-! ## The exponent -/

/-- A wheel of NaN turns as far as the cap. -/
theorem exponent_of_nan (rules : GestureRules Float) {delta : Float} (h : ¬IsNumber delta) :
    zoomExponent rules delta = rules.wheelCap * rules.zoomIntensity :=
  congrArg (· * rules.zoomIntensity) (smaller_of_nan (mt isNumber_abs_iff.mp h) rules.wheelCap)

/-- A wheel that is a number and turns goes one way or the other, and no farther than the cap. -/
theorem exponent_of_number {rules : GestureRules Float} (hcap : 0.0 < rules.wheelCap)
    {delta : Float} (hdelta : IsNumber delta) (hturned : 0.0 < zoomExponent rules delta) :
    (delta < 0.0 ∨ 0.0 < delta) ∧
      zoomExponent rules delta ≤ rules.wheelCap * rules.zoomIntensity := by
  have hcap' : IsNumber rules.wheelCap := (lt_iff.mp hcap).2.1
  have habs : IsNumber delta.abs := isNumber_abs_iff.mpr hdelta
  obtain ⟨hone, hleft, hright⟩ := smaller_spec habs hcap'
  have hnonneg : 0.0 ≤ smaller delta.abs rules.wheelCap := by
    have hsize : (0.0 : Float) ≤ delta.abs := by
      refine le_iff.mpr ⟨isNumber_zero, habs, ?_⟩
      rw [units_zero, units_abs]
      exact abs_nonneg _
    rcases hone with h | h <;> rw [h]
    · exact hsize
    · exact double_le_of_lt hcap
  obtain ⟨hturn, hintensity⟩ := pos_of_double_mul_pos hnonneg hturned
  refine ⟨?_, double_mul_le_mul hturn hright hintensity⟩
  have hunits : units delta ≠ 0 := by
    have hpos := pos_iff.mp (double_lt_of_lt_of_le hturn hleft)
    rw [units_abs] at hpos
    exact abs_pos.mp hpos
  rcases lt_or_gt_of_ne hunits with hneg | hpos
  · exact Or.inl (lt_iff.mpr ⟨hdelta, isNumber_zero, by rw [units_zero]; exact hneg⟩)
  · exact Or.inr (pos_iff.mpr hpos)

/-! ## The direction -/

/-- **The direction of a wheel.** A wheel on the axis leaves the range as it was, or zooms: in if it
turns toward the chart, out if it turns away, by an exponent above zero and no greater than that of
the cap. A wheel of NaN, which turns neither way, zooms out by the greatest exponent there is; and a
burst is one if any of its turns is. -/
theorem wheel_zooms_by_direction {s : PriceScale Float} (hcap : 0.0 < s.rules.wheelCap) :
    (∀ (y delta : Float) (modifier : Bool) (map : PriceMap Float),
      let after := (s.handle (.wheel y delta modifier .priceAxis) map).2
      let exponent := zoomExponent s.rules delta
      let most := s.rules.wheelCap * s.rules.zoomIntensity
      after.manual = s.manual ∨
        ∃ seed price factor next, s.effective = some seed ∧ map.priceAt y = some price ∧
          seed.zoomAbout? price factor = some next ∧ after.manual = some next ∧ 0.0 < exponent ∧
          (delta < 0.0 ∧ exponent ≤ most ∧ factor = Float.exp (-exponent) ∨
            0.0 < delta ∧ exponent ≤ most ∧ factor = Float.exp exponent ∨
            ¬IsNumber delta ∧ exponent = most ∧ factor = Float.exp exponent)) ∧
    (∀ run : List WheelTurn, ∀ turn ∈ run, ¬IsNumber turn.delta →
      ∀ whole, WheelTurn.whole? run = some whole → ¬IsNumber whole.delta) := by
  constructor
  · intro y delta modifier map after exponent most
    have hafter := s.manual_handle_wheel y delta modifier map
    change after.manual = _ at hafter
    split at hafter
    · rename_i next hnext
      obtain ⟨hturned, seed, price, hshown, hprice, hzoom⟩ := zoomed_eq_some_iff.mp hnext
      refine Or.inr ⟨seed, price, _, next, hshown, hprice, hzoom, hafter, hturned, ?_⟩
      by_cases hdelta : IsNumber delta
      · obtain ⟨hway, hmost⟩ := exponent_of_number hcap hdelta hturned
        rcases hway with htoward | haway
        · exact Or.inl ⟨htoward, hmost, if_pos htoward⟩
        · have hnot : ¬delta < 0.0 := double_not_lt_of_le (double_le_of_lt haway)
          exact Or.inr (Or.inl ⟨haway, hmost, if_neg hnot⟩)
      · have hnot : ¬delta < 0.0 := fun hlt => hdelta (lt_iff.mp hlt).1
        exact Or.inr (Or.inr ⟨hdelta, exponent_of_nan s.rules hdelta, if_neg hnot⟩)
    · exact Or.inl hafter
  · intro run turn hturn hnan whole hwhole
    exact WheelTurn.whole?_of_nan hturn hnan hwhole

/-- A scale with prices from 100 to 110, and a pane of 500 pixels that shows them. -/
def tens : PriceScale Float := { rules := ({} : Settings).gestures, auto := some ⟨100.0, 110.0⟩ }

def tensPane : PriceMap Float := .linear (some 500.0) (some ⟨100.0, 110.0⟩)

/-- A wheel toward the chart, halfway down the pane. -/
theorem wheel_zooms_by_direction_of_tens :
    0.0 < tens.rules.wheelCap ∧
      (let after := (tens.handle (.wheel 250.0 (-100.0) false .priceAxis) tensPane).2
      after.manual = none ∨ ∃ next,
        (⟨100.0, 110.0⟩ : PriceRange Float).zoomAbout? 105.0 (Float.exp (-0.2)) = some next ∧
          after.manual = some next) := by
  have hcap : 0.0 < tens.rules.wheelCap := by decide +kernel
  refine ⟨hcap, ?_⟩
  rcases (wheel_zooms_by_direction hcap).1 250.0 (-100.0) false tensPane with hkept |
    ⟨seed, price, factor, next, hshown, hprice, hzoom, hafter, -, hfactor⟩
  · exact Or.inl hkept
  · have hseed : tens.effective = some ⟨100.0, 110.0⟩ := rfl
    have hanchor : tensPane.priceAt 250.0 = some 105.0 := by decide +kernel
    cases hseed.symm.trans hshown
    cases hanchor.symm.trans hprice
    refine Or.inr ⟨next, ?_, hafter⟩
    rcases hfactor with ⟨-, -, rfl⟩ | ⟨haway, -⟩ | ⟨hnan, -⟩
    · have hexponent : zoomExponent tens.rules (-100.0) = 0.2 := by decide +kernel
      rw [hexponent] at hzoom
      exact hzoom
    · exact absurd haway (by decide +kernel)
    · exact absurd (isNumber_iff.mp (by decide +kernel)) hnan

/-- **NaN zooms out.** Nothing has turned, but the range that the pane shows from then on is that of
the greatest zoom, as soon as the exponential is what it should be. -/
theorem nan_zooms_out :
    let nan : Float := 0.0 / 0.0
    let after := (tens.handle (.wheel 250.0 nan false .priceAxis) tensPane).2
    ¬IsNumber nan ∧ tens.manual = none ∧
      after.manual =
        (⟨100.0, 110.0⟩ : PriceRange Float).zoomAbout? 105.0 (Float.exp (120.0 * 0.002)) ∧
      (Float.exp (120.0 * 0.002) = 1.2712491503214047 →
        after.manual = some ⟨98.64375424839298, 111.35624575160702⟩) := by
  intro nan after
  have hnan : ¬IsNumber nan := mt isNumber_iff.mpr (by decide +kernel)
  have hafter : after.manual =
      (⟨100.0, 110.0⟩ : PriceRange Float).zoomAbout? 105.0 (Float.exp (120.0 * 0.002)) := by
    have hturned : 0.0 < zoomExponent tens.rules nan := by decide +kernel
    have hanchor : tensPane.priceAt 250.0 = some 105.0 := by decide +kernel
    have hfactor : zoomFactor nan (zoomExponent tens.rules nan) = Float.exp (120.0 * 0.002) := by
      rw [exponent_of_nan tens.rules hnan]
      exact if_neg fun hlt => hnan (lt_iff.mp hlt).1
    have hshown : tens.effective = some ⟨100.0, 110.0⟩ := rfl
    refine (manual_of_turned hturned hshown hanchor false).trans ?_
    rw [hfactor]
    exact Option.or_none
  refine ⟨hnan, rfl, hafter, ?_⟩
  intro hexp
  rw [hafter, hexp]
  decide +kernel

end PriceScale

end ChartLayer
