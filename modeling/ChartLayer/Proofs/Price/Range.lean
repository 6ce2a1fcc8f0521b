import ChartLayer.Price.Range
import ChartLayer.Proofs.Number.Units

/-!
# Valid price ranges

Every range that `PriceRange.of?` gives has finite bounds, the least one below the greatest, and the
least span between them. The checks in it are comparisons of doubles, and a comparison with NaN is
false whichever way round it is written: that none of the bounds is NaN or infinite is what has to
be shown. Prices closer than the least span lie so close that their middle is finite, and the bounds
around it are.
-/

namespace ChartLayer.PriceRange

/-- What every price range is meant to be. -/
structure Valid (r : PriceRange Float) : Prop where
  min_finite : r.min.isFinite = true
  max_finite : r.max.isFinite = true
  min_lt_max : r.min < r.max
  leastSpan_le : leastSpan ≤ r.span

/-! ## The constants -/

theorem isSmall_leastSpan : IsSmall (leastSpan : Float) :=
  isSmall_of_exponent (show (leastSpan : Float).toModel.unpack =
    .finite .positive 6044629098073146 (-79) (by decide) from rfl) (by decide)

theorem isSmall_half_leastSpan : IsSmall (leastSpan / 2.0 : Float) :=
  isSmall_of_exponent (show (leastSpan / 2.0 : Float).toModel.unpack =
    .finite .positive 6044629098073146 (-80) (by decide) from rfl) (by decide)

/-! ## The checks -/

/-- Bounds that neither check sends back are those of a valid range. -/
theorem valid_of_checks {low high : Float} (hlow : low.isFinite = true)
    (hhigh : high.isFinite = true) (h : ¬(high - low < leastSpan ∨ high ≤ low)) :
    Valid ⟨low, high⟩ := by
  obtain ⟨hspan, horder⟩ := not_or.mp h
  have hnum := (rounds_sub hhigh hlow).number
  have hl := IsNumber.of_isFinite hlow
  have hh := IsNumber.of_isFinite hhigh
  refine ⟨hlow, hhigh, hl.lt_of_not_le hh horder, isSmall_leastSpan.1.le_of_not_lt hnum hspan⟩

theorem valid_widen {mid half : Float} {steps : Nat} {r : PriceRange Float}
    (h : widen? mid steps half = some r) : r.Valid := by
  induction steps generalizing half with
  | zero => cases h
  | succ steps ih =>
    unfold widen? at h
    dsimp only at h
    split at h
    · cases h
    · rename_i hfinite
      rw [Bool.or_eq_true, Bool.not_eq_true', Bool.not_eq_true', not_or, Bool.not_eq_false,
        Bool.not_eq_false] at hfinite
      split at h
      · exact ih h
      · rename_i hchecks
        cases h
        exact valid_of_checks hfinite.1 hfinite.2 hchecks

/-! ## Ranges -/

/-- Prices apart by the least span are apart. -/
theorem lt_of_leastSpan_le {low high : Float} (hlow : low.isFinite = true)
    (hhigh : high.isFinite = true) (h : leastSpan ≤ high - low) : low < high := by
  have hl := IsNumber.of_isFinite hlow
  have hh := IsNumber.of_isFinite hhigh
  have hpos : units (0.0 : Float) < units (leastSpan : Float) :=
    (lt_iff.mp (show (0.0 : Float) < leastSpan by decide)).2.2
  refine lt_iff.mpr ⟨hl, hh, ?_⟩
  by_contra hle
  have hneg := (rounds_sub hhigh hlow).nonpos (by omega)
  have hle' := (le_iff.mp h).2.2
  have hzero : units (0.0 : Float) = 0 := rfl
  omega

/-- The middle of two prices closer than the least span. -/
theorem isFinite_mid {low high : Float} (hlow : low.isFinite = true) (hhigh : high.isFinite = true)
    (hle : low ≤ high) (hclose : ¬leastSpan ≤ high - low) :
    (low + (high - low) / 2.0).isFinite = true := by
  have hdiff := rounds_sub hhigh hlow
  have hnonneg := hdiff.nonneg (by have := (le_iff.mp hle).2.2; omega)
  have hlt : units (high - low) < units (leastSpan : Float) := by
    rw [le_iff] at hclose
    by_contra hge
    exact hclose ⟨isSmall_leastSpan.1, hdiff.number, by omega⟩
  have hsmall : (units (high - low)).natAbs + 1 < Binary64.halfStep := by
    have := isSmall_leastSpan.2
    omega
  have hfinite : (high - low).isFinite = true :=
    IsSmall.isFinite ⟨hdiff.number, by omega⟩
  obtain ⟨hnum, hhalf⟩ := half_le hfinite
  exact isFinite_add hlow ⟨hnum, by omega⟩

/-- The least span around a finite price has finite ends. -/
theorem isFinite_around {mid : Float} (hmid : mid.isFinite = true) :
    (mid - leastSpan / 2.0).isFinite = true ∧ (mid + leastSpan / 2.0).isFinite = true :=
  ⟨isFinite_sub hmid isSmall_half_leastSpan, isFinite_add hmid isSmall_half_leastSpan⟩

/-- The range between two prices in order. -/
def between? (low high : Float) : Option (PriceRange Float) :=
  if leastSpan ≤ high - low then some ⟨low, high⟩
  else
    let mid := low + (high - low) / 2.0
    let near := mid - leastSpan / 2.0
    let far := mid + leastSpan / 2.0
    if far - near < leastSpan ∨ far ≤ near then widen? mid widenSteps leastSpan
    else some ⟨near, far⟩

theorem of?_eq (a b : Float) : of? a b =
    if !a.isFinite || !b.isFinite then none else if a ≤ b then between? a b else between? b a := by
  unfold of? between?
  by_cases hle : a ≤ b
  · simp only [hle, ↓reduceIte]
    rfl
  · simp only [hle, ↓reduceIte]
    rfl

theorem valid_between {low high : Float} {r : PriceRange Float} (hlow : low.isFinite = true)
    (hhigh : high.isFinite = true) (hle : low ≤ high) (h : between? low high = some r) :
    r.Valid := by
  unfold between? at h
  split at h
  · rename_i hspan
    cases h
    exact ⟨hlow, hhigh, lt_of_leastSpan_le hlow hhigh hspan, hspan⟩
  · rename_i hclose
    obtain ⟨hnear, hfar⟩ := isFinite_around (isFinite_mid hlow hhigh hle hclose)
    dsimp only at h
    split at h
    · exact valid_widen h
    · rename_i hchecks
      cases h
      exact valid_of_checks hnear hfar hchecks

/-- **Valid ranges.** Whatever two prices are given, the range between them is valid if there is
one. -/
theorem valid_of? {a b : Float} {r : PriceRange Float} (h : of? a b = some r) : r.Valid := by
  rw [of?_eq] at h
  split at h
  · cases h
  · rename_i hfinite
    rw [Bool.or_eq_true, Bool.not_eq_true', Bool.not_eq_true', not_or, Bool.not_eq_false,
      Bool.not_eq_false] at hfinite
    obtain ⟨ha, hb⟩ := hfinite
    split at h
    · rename_i hle
      exact valid_between ha hb hle h
    · rename_i hnot
      exact valid_between hb ha
        ((IsNumber.of_isFinite hb).le_of_not_le (IsNumber.of_isFinite ha) hnot) h

theorem valid_zoomAbout? {r next : PriceRange Float} {anchor factor : Float}
    (h : r.zoomAbout? anchor factor = some next) : next.Valid := by
  unfold zoomAbout? at h
  split at h
  · cases h
  · exact valid_of? h

theorem valid_movedBy? {r next : PriceRange Float} {offset : Float}
    (h : r.movedBy? offset = some next) : next.Valid :=
  valid_of? h

end ChartLayer.PriceRange
