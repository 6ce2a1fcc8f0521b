import ChartLayer.Proofs.Number.Product
import ChartLayer.Proofs.Number.TotalOrder

/-!
# Where NaN goes

A comparison with NaN is false, so a check written as one lets NaN through. What can become of it is
said by the operations: a difference with NaN is NaN, rounding to a whole number keeps NaN and makes
none, and no sum of numbers that are not below zero is NaN.

* `IsNumber.of_sub`: a difference that is a number is one of numbers.
* `double_add_nonneg`: a sum of numbers that are not below zero is one of those.
* `isNumber_roundAway_iff`: rounding keeps numbers and NaN apart.
-/

namespace ChartLayer

open Float.Model (UnpackedFloat)

/-! ## Differences -/

theorem unpack_neg (x : Float) : (-x).toModel.unpack = x.toModel.unpack.neg := by
  have hneg := Binary64.isDouble_neg (isDouble x)
  have hkept : (-x).toModel.unpack = Binary64.settle x.toModel.unpack.neg :=
    unpack_ofModel_pack (Binary64.tidy_of_isDouble hneg)
  rw [hkept, Binary64.settle_of_isDouble hneg]

theorem isNumber_neg_iff {x : Float} : IsNumber (-x) ↔ IsNumber x := by
  rw [IsNumber, IsNumber, unpack_neg]
  cases x.toModel.unpack <;> simp [UnpackedFloat.neg]

theorem double_sub_eq_add_neg (x y : Float) : x - y = x + -y := by
  have hsub : x - y = Float.ofModel (Float.Model.pack
      (x.toModel.unpack.sub .binary64 y.toModel.unpack)) := rfl
  rw [hsub, Binary64.sub_eq_add_neg, ← unpack_neg]
  rfl

/-- A difference with NaN is NaN. -/
theorem IsNumber.of_sub {x y : Float} (h : IsNumber (x - y)) : IsNumber x ∧ IsNumber y := by
  rw [double_sub_eq_add_neg] at h
  obtain ⟨hx, hy⟩ := h.of_add
  exact ⟨hx, isNumber_neg_iff.mp hy⟩

/-! ## Sums -/

/-- A number not below zero is not the infinity below. -/
theorem unpack_ne_of_nonneg {x : Float} (h : 0.0 ≤ x) :
    x.toModel.unpack ≠ .notANumber ∧ x.toModel.unpack ≠ .infinity .negative := by
  obtain ⟨-, hnumber, hunits⟩ := le_iff.mp h
  refine ⟨hnumber, fun hinfinite => ?_⟩
  have hlimit := Binary64.limit_pos
  rw [units_zero, units, hinfinite] at hunits
  simp only [Binary64.place, UnpackedFloat.Sign.apply] at hunits
  omega

/-- And if it is infinite, it is the one above. -/
theorem unpack_of_nonneg_of_not_isFinite {x : Float} (h : 0.0 ≤ x) (hx : ¬x.isFinite = true) :
    x.toModel.unpack = .infinity .positive := by
  obtain ⟨hnumber, hnegative⟩ := unpack_ne_of_nonneg h
  have hdef : x.isFinite = x.toModel.unpack.isFinite := rfl
  rw [hdef] at hx
  rcases hu : x.toModel.unpack with s | _ | s | ⟨s, m, e, hm⟩
  case notANumber => exact absurd hu hnumber
  case infinity =>
    cases s with
    | positive => rfl
    | negative => exact absurd hu hnegative
  all_goals
    rw [hu] at hx
    exact absurd rfl hx

/-- The infinity above swallows all but NaN and its opposite. -/
theorem add_infinity {u : UnpackedFloat} (h : u ≠ .notANumber ∧ u ≠ .infinity .negative) :
    u.add .binary64 (.infinity .positive) = .infinity .positive ∧
      UnpackedFloat.add .binary64 (.infinity .positive) u = .infinity .positive := by
  rcases u with s | _ | s | ⟨s, m, e, hm⟩
  case notANumber => exact absurd rfl h.1
  case infinity =>
    cases s with
    | positive => exact ⟨rfl, rfl⟩
    | negative => exact absurd rfl h.2
  all_goals exact ⟨rfl, rfl⟩

/-- A sum of numbers that are not below zero is not below zero either. -/
theorem double_add_nonneg {x y : Float} (hx : 0.0 ≤ x) (hy : 0.0 ≤ y) : 0.0 ≤ x + y := by
  by_cases hfinite : x.isFinite = true ∧ y.isFinite = true
  · have hrounds := rounds_add hfinite.1 hfinite.2
    have hx0 : 0 ≤ units x := units_zero ▸ (le_iff.mp hx).2.2
    have hy0 : 0 ≤ units y := units_zero ▸ (le_iff.mp hy).2.2
    have hsum : units 0.0 ≤ units (x + y) := by
      rw [units_zero]
      exact hrounds.nonneg (by omega)
    exact le_iff.mpr ⟨isNumber_zero, hrounds.number, hsum⟩
  · have hsum : x.toModel.unpack.add .binary64 y.toModel.unpack = .infinity .positive := by
      rcases Classical.not_and_iff_not_or_not.mp hfinite with hinfinite | hinfinite
      · rw [unpack_of_nonneg_of_not_isFinite hx hinfinite]
        exact (add_infinity (unpack_ne_of_nonneg hy)).2
      · rw [unpack_of_nonneg_of_not_isFinite hy hinfinite]
        exact (add_infinity (unpack_ne_of_nonneg hx)).1
    have hkept : x + y = Float.ofModel (Float.Model.pack
        (x.toModel.unpack.add .binary64 y.toModel.unpack)) := rfl
    rw [hkept, hsum]
    decide +kernel

/-! ## Whole numbers -/

/-- A number times one is a number, the infinities included. -/
theorem IsNumber.mul_one {x : Float} (hx : IsNumber x) : IsNumber (x * 1.0) := by
  obtain ⟨s, m, e, hm, hone⟩ : ∃ s m e hm, (1.0 : Float).toModel.unpack = .finite s m e hm :=
    ⟨.positive, 2 ^ 52, -52, by decide, rfl⟩
  have hd := isDouble 1.0
  have hdx := isDouble x
  rw [IsNumber] at hx ⊢
  rw [unpack_mul]
  rw [hone] at hd ⊢
  apply Binary64.settle_ne_notANumber
  rcases hu : x.toModel.unpack with t | _ | t | ⟨t, n, f, hn⟩
  case notANumber => exact absurd hu hx
  case finite =>
    rw [hu] at hdx
    exact (Binary64.tidy_roundWithAccuracy _ _ .exact rfl (Binary64.exponent_le_target hdx hd)).2
  all_goals exact UnpackedFloat.noConfusion

theorem unpack_toFloat (n : UInt64) :
    Binary64.IsRounded (n.toNat * 2 ^ 1074)
        (UnpackedFloat.normalize .binary64 n.toNat 0 .positive) ∧
      n.toFloat.toModel.unpack =
        Binary64.settle (UnpackedFloat.normalize .binary64 n.toNat 0 .positive) := by
  have hrounded : Binary64.IsRounded (n.toNat * 2 ^ 1074)
      (UnpackedFloat.normalize .binary64 n.toNat 0 .positive) :=
    Binary64.isRounded_normalize n.toNat .positive (by decide) rfl
  exact ⟨hrounded, unpack_ofModel_pack hrounded.tidy⟩

theorem isNumber_toFloat (n : UInt64) : IsNumber n.toFloat := by
  obtain ⟨hrounded, hunpack⟩ := unpack_toFloat n
  rw [IsNumber, hunpack]
  exact Binary64.settle_ne_notANumber hrounded.number

theorem ofNat_eq_toFloat_mul_one {n : Nat} (h : n < 2 ^ 53) :
    Float.ofNat n = n.toUInt64.toFloat * 1.0 := by
  change Float.ofScientific n false 0 = _
  unfold Float.ofScientific
  rw [dif_pos ⟨h, by decide⟩]
  rfl

theorem isNumber_ofNat {n : Nat} (h : n < 2 ^ 53) : IsNumber (Float.ofNat n) := by
  rw [ofNat_eq_toFloat_mul_one h]
  exact (isNumber_toFloat _).mul_one

theorem Binary64.significand_lt {x : Float} {negative : Bool} {m : Nat} {e : Int}
    (h : Binary64.ofFloat x = .finite negative m e) : m < 2 ^ 53 := by
  have hfraction : x.toBits.toNat % Binary64.hiddenBit < Binary64.hiddenBit :=
    Nat.mod_lt _ (by decide)
  have hhidden : Binary64.hiddenBit = 2 ^ 52 := rfl
  simp only [Binary64.ofFloat] at h
  split at h
  · split at h <;> cases h
  · split at h <;> cases h <;> omega

/-- **Rounding.** The nearest whole number of a number is a number; NaN has none but itself. -/
theorem isNumber_roundAway_iff {x : Float} : IsNumber (roundAway x) ↔ IsNumber x := by
  constructor
  · intro h
    by_contra hx
    have hnan : ¬IsNumber (0.0 / 0.0) := by
      rw [← isNumber_iff]
      decide +kernel
    have hround : roundAway (0.0 / 0.0) = 0.0 / 0.0 := by decide +kernel
    rw [eq_of_nan hx hnan, hround] at h
    exact hnan h
  · intro hx
    unfold roundAway
    split
    · rename_i negative m e hparts
      split
      · exact hx
      · -- what is written out as a whole number has no more digits than `x`
        have hm := Binary64.significand_lt hparts
        have hunit : 0 < twoPow (-e).toNat := Nat.two_pow_pos _
        generalize twoPow (-e).toNat = unit at hunit ⊢
        have hwhole : (2 * m + unit) / (2 * unit) < 2 ^ 53 := by
          rw [Nat.div_lt_iff_lt_mul (by omega)]
          omega
        dsimp only
        split
        · exact isNumber_neg_iff.mpr (isNumber_ofNat hwhole)
        · exact isNumber_ofNat hwhole
    · exact hx

end ChartLayer
