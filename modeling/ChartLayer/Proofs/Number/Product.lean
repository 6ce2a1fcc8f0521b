import ChartLayer.Proofs.Number.Units

/-!
# Products of doubles

The exact product of two doubles is a whole number of squares of the least double, and it is rounded
once: to 53 digits, and to whole units. So between positive doubles a product grows with its
factors, and it has the sign that its factors say.

* `place_mul`: the exact product, rounded.
* `double_mul_le_mul`: a product of positive doubles grows with its first factor.
* `pos_of_double_mul_pos`: a product above zero has no factor that is zero.
* `units_abs`: the absolute value.
-/

namespace ChartLayer

open Float.Model (UnpackedFloat Format)

namespace Binary64

open Float.Model.UnpackedFloat

/-! ## Squares of the least double -/

/-- The step to which a number of squares of the least double is rounded: 53 digits are left, and a
unit is `2 ^ 1074` squares. -/
def productStep (n : Nat) : Nat := max (n.log2 - 52) 1074

/-- What a number of squares is rounded to, in units. -/
def roundProduct (n : Nat) : Nat :=
  roundedQuotient n .exact (productStep n) * 2 ^ (productStep n - 1074)

theorem productStep_mono {m n : Nat} (h : m ≤ n) : productStep m ≤ productStep n :=
  max_le_max (Nat.sub_le_sub_right (log2_mono h) 52) le_rfl

theorem roundProduct_mono {m n : Nat} (h : m ≤ n) : roundProduct m ≤ roundProduct n := by
  have hstep := productStep_mono h
  have hm : roundedQuotient m .exact (productStep m) ≤ 2 ^ 53 := by
    have hbound := (roundedQuotient_bounds m .exact (productStep m)).2
    have hdigits := div_lt_of_log2 m (productStep m) (by unfold productStep; omega)
    omega
  have hn (hlt : productStep m < productStep n) :
      2 ^ 52 ≤ roundedQuotient n .exact (productStep n) := by
    have hbig : n.log2 = productStep n + 52 := by
      unfold productStep at hlt ⊢
      omega
    have hne : n ≠ 0 := by
      rintro rfl
      rw [show (0 : Nat).log2 = 0 by decide] at hbig
      omega
    exact (le_div_of_log2 hne hbig).trans (roundedQuotient_bounds n .exact _).1
  have hsquares (k : Nat) : roundProduct k * 2 ^ 1074 =
      roundedQuotient k .exact (productStep k) * 2 ^ productStep k := by
    rw [roundProduct, Nat.mul_assoc, ← Nat.pow_add,
      Nat.sub_add_cancel (show 1074 ≤ productStep k from Nat.le_max_right ..)]
  have hle := roundedQuotient_steps_mono h hstep hm hn
  rw [← hsquares, ← hsquares] at hle
  exact Nat.le_of_mul_le_mul_right hle (pow_pos (by decide) 1074)

/-! ## Products -/

section Finite

variable {s t : Sign} {m n : Nat} {e f : Int} {hm : 0 < m} {hn : 0 < n}

/-- The factors have so many digits that none is missing in the product. -/
theorem exponent_le_target (hx : IsDouble (.finite s m e hm)) (hy : IsDouble (.finite t n f hn)) :
    e + f ≤ Format.binary64.targetExponent (Float.Model.totalExponent (m * n) (e + f)) := by
  obtain ⟨⟨-, he, hfull⟩, -⟩ := hx
  obtain ⟨⟨-, hf, hfull'⟩, -⟩ := hy
  have hdigits : 52 ≤ (m * n).log2 ∨ e = -1074 ∧ f = -1074 := by
    have hlog (h : 2 ^ 52 ≤ m * n) : 52 ≤ (m * n).log2 :=
      (Nat.le_log2 (Nat.mul_pos hm hn).ne').mpr h
    rcases hfull with hm' | he'
    · exact Or.inl (hlog (hm'.trans (Nat.le_mul_of_pos_right m hn)))
    · rcases hfull' with hn' | hf'
      · exact Or.inl (hlog (hn'.trans (Nat.le_mul_of_pos_left n hm)))
      · exact Or.inr ⟨he', hf'⟩
  rw [targetExponent_eq, Float.Model.totalExponent]
  omega

/-- The exact product, rounded once. -/
theorem place_mul (hx : IsDouble (.finite s m e hm)) (hy : IsDouble (.finite t n f hn)) :
    place (mul .binary64 (.finite s m e hm) (.finite t n f hn)) =
      (s * t).apply (roundProduct (m * 2 ^ (e + 1074).toNat * (n * 2 ^ (f + 1074).toNat)) : Nat) := by
  have he : -1074 ≤ e := hx.1.2.1
  have hf : -1074 ≤ f := hy.1.2.1
  have hmn : m * n ≠ 0 := (Nat.mul_pos hm hn).ne'
  obtain ⟨k, hk⟩ : ∃ k : Nat, (k : Int) = e + f + 2148 := ⟨(e + f + 2148).toNat, by omega⟩
  have hsquares : m * 2 ^ (e + 1074).toNat * (n * 2 ^ (f + 1074).toNat) = m * n * 2 ^ k := by
    rw [show k = (e + 1074).toNat + (f + 1074).toNat by omega, Nat.pow_add]
    ring
  have hle := exponent_le_target hx hy
  have htarget : Format.binary64.targetExponent (Float.Model.totalExponent (m * n) (e + f)) =
      (productStep (m * n * 2 ^ k) : Int) - 2148 := by
    rw [targetExponent_eq, Float.Model.totalExponent, productStep, log2_mul_two_pow hmn]
    omega
  rw [htarget] at hle
  have hstep : 1074 ≤ productStep (m * n * 2 ^ k) := Nat.le_max_right ..
  rw [hsquares, roundProduct]
  generalize hj : productStep (m * n * 2 ^ k) = j at hle htarget hstep ⊢
  change place (roundWithAccuracy .binary64 (s * t) (m * n) (e + f) .exact) = _
  rw [roundWithAccuracy_eq (s * t) (m * n) (e + f) .exact htarget hle, place_carry _ _ (by omega)]
  obtain ⟨i, hi⟩ : ∃ i : Nat, (i : Int) = j - 2148 - (e + f) := ⟨(j - 2148 - (e + f)).toNat, by omega⟩
  rw [← hi, Int.toNat_natCast, show j = k + i by omega, roundedQuotient_mul,
    show ((k + i : Nat) : Int) - 2148 + 1074 = ((k + i - 1074 : Nat) : Int) by omega,
    Int.toNat_natCast]

end Finite

theorem tidy_mul {x y : UnpackedFloat} (hx : IsDouble x) (hy : IsDouble y) :
    Tidy (mul .binary64 x y) := by
  rcases x with s | _ | s | ⟨s, m, e, hm⟩ <;> rcases y with t | _ | t | ⟨t, n, f, hn⟩
  case finite.finite => exact (tidy_roundWithAccuracy _ _ .exact rfl (exponent_le_target hx hy)).1
  all_goals trivial

/-! ## Signs -/

theorem positive_of_apply_pos {s : Sign} {n : Nat} (h : 0 < s.apply n) : s = .positive := by
  cases s with
  | positive => rfl
  | negative =>
    simp only [Sign.apply] at h
    omega

theorem apply_mul_apply_pos {s t : Sign} (h : s * t = .positive) {m n : Nat} (hm : 0 < m)
    (hn : 0 < n) : 0 < s.apply m * t.apply n := by
  have hpos : 0 < (m : Int) * n := Int.mul_pos (by omega) (by omega)
  cases s <;> cases t
  case negative.positive | positive.negative => cases h
  case positive.positive => exact hpos
  case negative.negative => exact hpos.trans_eq (Int.neg_mul_neg _ _).symm

/-- A product above zero is one of factors of one sign, though one of them may be infinite. -/
theorem pos_of_place_mul_pos {x y : UnpackedFloat} (hx : IsDouble x) (hy : IsDouble y)
    (h : 0 < place (mul .binary64 x y)) : 0 < place x * place y := by
  have hlimit := limit_pos
  rcases x with s | _ | s | ⟨s, m, e, hm⟩ <;> rcases y with t | _ | t | ⟨t, n, f, hn⟩
  case infinity.infinity =>
    exact apply_mul_apply_pos (positive_of_apply_pos h) hlimit hlimit
  case infinity.finite =>
    exact apply_mul_apply_pos (positive_of_apply_pos h) hlimit
      (Nat.mul_pos hn (Nat.two_pow_pos _))
  case finite.infinity =>
    exact apply_mul_apply_pos (positive_of_apply_pos h) (Nat.mul_pos hm (Nat.two_pow_pos _))
      hlimit
  case finite.finite =>
    rw [place_mul hx hy] at h
    exact apply_mul_apply_pos (positive_of_apply_pos h) (Nat.mul_pos hm (Nat.two_pow_pos _))
      (Nat.mul_pos hn (Nat.two_pow_pos _))
  all_goals exact absurd h (lt_irrefl 0)

/-! ## Order -/

theorem positive_cases {x : UnpackedFloat} (h : 0 < place x) :
    x = .infinity .positive ∨ ∃ m e hm, x = .finite .positive m e hm := by
  rcases x with s | _ | s | ⟨s, m, e, hm⟩
  case infinity =>
    rw [positive_of_apply_pos h]
    exact Or.inl rfl
  case finite =>
    rw [positive_of_apply_pos h]
    exact Or.inr ⟨m, e, hm, rfl⟩
  all_goals exact absurd h (lt_irrefl 0)

theorem mul_ne_notANumber {x y : UnpackedFloat} (hx : IsDouble x) (hy : IsDouble y)
    (hx' : 0 < place x) (hy' : 0 < place y) : mul .binary64 x y ≠ .notANumber := by
  rcases positive_cases hx' with rfl | ⟨m, e, hm, rfl⟩ <;>
    rcases positive_cases hy' with rfl | ⟨n, f, hn, rfl⟩
  case inr.inr => exact (tidy_roundWithAccuracy _ _ .exact rfl (exponent_le_target hx hy)).2
  all_goals exact UnpackedFloat.noConfusion

/-- A product of positive factors grows with the first of them. -/
theorem place_settle_mul_mono {x x' y : UnpackedFloat} (hx : IsDouble x) (hx' : IsDouble x')
    (hy : IsDouble y) (hpos : 0 < place x) (hle : place x ≤ place x') (hy' : 0 < place y) :
    place (settle (mul .binary64 x y)) ≤ place (settle (mul .binary64 x' y)) := by
  have hlimit := limit_pos
  have hkept := place_settle (tidy_mul hx hy)
  have hkept' := place_settle (tidy_mul hx' hy)
  have hinfinite (h : mul .binary64 x' y = .infinity .positive) :
      place (settle (mul .binary64 x y)) ≤ place (settle (mul .binary64 x' y)) := by
    have hplace : place (.infinity .positive) = (limit : Int) := rfl
    rw [h, hplace] at hkept'
    rw [h]
    omega
  rcases positive_cases hy' with rfl | ⟨n, f, hn, rfl⟩
  · rcases positive_cases (hpos.trans_le hle) with rfl | ⟨m', e', hm', rfl⟩ <;>
      exact hinfinite rfl
  · rcases positive_cases (hpos.trans_le hle) with rfl | ⟨m', e', hm', rfl⟩
    · exact hinfinite rfl
    · rcases positive_cases hpos with rfl | ⟨m, e, hm, rfl⟩
      · have hbelow := magnitude_lt hx'.1.1 hx'.2
        simp only [place, Sign.apply] at hle
        omega
      · have hmagnitude : m * 2 ^ (e + 1074).toNat ≤ m' * 2 ^ (e' + 1074).toNat := by
          simp only [place, Sign.apply] at hle
          omega
        have hmono := roundProduct_mono
          (Nat.mul_le_mul_right (n * 2 ^ (f + 1074).toNat) hmagnitude)
        rw [place_mul hx hy] at hkept
        rw [place_mul hx' hy] at hkept'
        change _ = max _ (min _ ((roundProduct _ : Nat) : Int)) at hkept hkept'
        omega

/-! ## Absolute values -/

theorem isDouble_abs : ∀ {x : UnpackedFloat}, IsDouble x → IsDouble x.abs
  | .finite .., h => h
  | .notANumber, _ | .infinity _, _ | .zero _, _ => trivial

theorem abs_apply (s : Sign) (n : Nat) : |s.apply n| = (n : Int) := by
  cases s with
  | positive => exact Nat.abs_cast n
  | negative => exact (abs_neg (n : Int)).trans (Nat.abs_cast n)

theorem place_abs : ∀ x : UnpackedFloat, place x.abs = |place x|
  | .notANumber | .zero _ => rfl
  | .infinity s | .finite s .. => (abs_apply s _).symm

theorem tidy_of_isDouble : ∀ {x : UnpackedFloat}, IsDouble x → Tidy x
  | .finite .., h => h.1
  | .notANumber, _ | .infinity _, _ | .zero _, _ => trivial

theorem settle_of_isDouble : ∀ {x : UnpackedFloat}, IsDouble x → settle x = x
  | .finite .., hx => if_neg hx.2.not_gt
  | .notANumber, _ | .infinity _, _ | .zero _, _ => rfl

end Binary64

/-! ## Doubles -/

theorem unpack_mul (x y : Float) : (x * y).toModel.unpack =
    Binary64.settle (x.toModel.unpack.mul .binary64 y.toModel.unpack) :=
  unpack_ofModel_pack (Binary64.tidy_mul (isDouble x) (isDouble y))

theorem unpack_abs (x : Float) : x.abs.toModel.unpack = x.toModel.unpack.abs := by
  have habs := Binary64.isDouble_abs (isDouble x)
  have hkept : x.abs.toModel.unpack = Binary64.settle x.toModel.unpack.abs :=
    unpack_ofModel_pack (Binary64.tidy_of_isDouble habs)
  rw [hkept, Binary64.settle_of_isDouble habs]

theorem units_abs (x : Float) : units x.abs = |units x| := by
  rw [units, unpack_abs, Binary64.place_abs]
  rfl

theorem isNumber_abs_iff {x : Float} : IsNumber x.abs ↔ IsNumber x := by
  rw [IsNumber, IsNumber, unpack_abs]
  cases x.toModel.unpack <;> simp [UnpackedFloat.abs]

theorem pos_iff {x : Float} : 0.0 < x ↔ 0 < units x := by
  rw [lt_iff, units_zero]
  refine ⟨fun h => h.2.2, fun h => ⟨isNumber_zero, ?_, h⟩⟩
  intro hnan
  rw [units, hnan] at h
  exact absurd h (lt_irrefl 0)

/-- Between positive doubles a product grows with its first factor. -/
theorem double_mul_le_mul {a b c : Float} (ha : 0.0 < a) (hab : a ≤ b) (hc : 0.0 < c) :
    a * c ≤ b * c := by
  have hb : 0.0 < b := double_lt_of_lt_of_le ha hab
  rw [pos_iff] at ha hb hc
  have hnumber {x y : Float} (hx : 0 < units x) (hy : 0 < units y) : IsNumber (x * y) := by
    rw [IsNumber, unpack_mul]
    exact Binary64.settle_ne_notANumber
      (Binary64.mul_ne_notANumber (isDouble x) (isDouble y) hx hy)
  refine le_iff.mpr ⟨hnumber ha hc, hnumber hb hc, ?_⟩
  rw [units, units, unpack_mul, unpack_mul]
  exact Binary64.place_settle_mul_mono (isDouble a) (isDouble b) (isDouble c) ha
    (le_iff.mp hab).2.2 hc

/-- A product above zero, of which one factor is not below: both are above. -/
theorem pos_of_double_mul_pos {a c : Float} (ha : 0.0 ≤ a) (h : 0.0 < a * c) :
    0.0 < a ∧ 0.0 < c := by
  have hfactors : 0 < units a * units c := by
    have hlimit := Binary64.limit_pos
    have hplace := Binary64.place_settle (Binary64.tidy_mul (isDouble a) (isDouble c))
    rw [pos_iff, units, unpack_mul] at h
    exact Binary64.pos_of_place_mul_pos (isDouble a) (isDouble c) (by omega)
  have hnonneg : 0 ≤ units a := units_zero ▸ (le_iff.mp ha).2.2
  have hc : 0 < units c := pos_of_mul_pos_right hfactors hnonneg
  exact ⟨pos_iff.mpr (pos_of_mul_pos_left hfactors hc.le), pos_iff.mpr hc⟩

end ChartLayer
