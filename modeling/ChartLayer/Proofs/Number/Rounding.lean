import Mathlib

/-!
# How a double is rounded

A finite double is a whole number of units of `2 ^ -1074`, the least double above zero. The
arithmetic of `Float` works out an exact result, keeps the leading 53 digits of it and rounds; this
file says in units what comes of that.

* `roundWithAccuracy_eq`: the two shifts of the model are one rounded quotient and a carry.
* `round_eq`: so rounding a number of units keeps its leading 53 digits (`RoundsTo`).
* `roundUnits`, `roundUnits_mono`: what a number of units is rounded to grows with it.
* `place_carry`: a carry does not change how many units that is.
* `RoundsTo.lt_limit`: what lies more than half a step below `2 ^ 1024` does not reach it.
-/

namespace ChartLayer.Binary64

open Float.Model Float.Model.UnpackedFloat

/-! ## Digits shifted out -/

theorem shiftRight_succ (em : ExtendedMantissa) (n : Nat) :
    em >>> (n + 1) = (em >>> n).shiftRightOne := rfl

theorem mantissa_shiftRight (em : ExtendedMantissa) (n : Nat) :
    (em >>> n).mantissa = em.mantissa / 2 ^ n := by
  induction n with
  | zero => rw [Nat.pow_zero, Nat.div_one]; rfl
  | succ n ih =>
    rw [shiftRight_succ, ExtendedMantissa.shiftRightOne, ih, Nat.div_div_eq_div_mul, Nat.pow_succ]

theorem roundBit_shiftRight (em : ExtendedMantissa) (n : Nat) :
    (em >>> (n + 1)).roundBit = (em.mantissa / 2 ^ n % 2 != 0) := by
  rw [shiftRight_succ, ExtendedMantissa.shiftRightOne, mantissa_shiftRight]

@[simp] theorem mantissa_ofMantissaAndAccuracy (m : Nat) (acc : Accuracy) :
    (ExtendedMantissa.ofMantissaAndAccuracy m acc).mantissa = m := by
  rcases acc with _ | (_ | _ | _) <;> rfl

theorem roundedMantissa_bounds (em : ExtendedMantissa) :
    em.mantissa ≤ em.roundedMantissa ∧ em.roundedMantissa ≤ em.mantissa + 1 := by
  rcases em with ⟨m, _ | _, _ | _⟩ <;>
    simp only [ExtendedMantissa.roundedMantissa, ExtendedMantissa.accuracy,
      Accuracy.roundToNearestEven] <;> omega

theorem roundedMantissa_of_roundBit {em : ExtendedMantissa} (h : em.roundBit = false) :
    em.roundedMantissa = em.mantissa := by
  rcases em with ⟨m, _ | _, _ | _⟩ <;> simp_all [ExtendedMantissa.roundedMantissa,
    ExtendedMantissa.accuracy, Accuracy.roundToNearestEven]

/-- The quotient by a power of two, rounded: what the first shift of the model leaves. -/
def roundedQuotient (m : Nat) (acc : Accuracy) (n : Nat) : Nat :=
  (ExtendedMantissa.ofMantissaAndAccuracy m acc >>> n).roundedMantissa

theorem roundedQuotient_bounds (m : Nat) (acc : Accuracy) (n : Nat) :
    m / 2 ^ n ≤ roundedQuotient m acc n ∧ roundedQuotient m acc n ≤ m / 2 ^ n + 1 := by
  have h := roundedMantissa_bounds (ExtendedMantissa.ofMantissaAndAccuracy m acc >>> n)
  rw [mantissa_shiftRight, mantissa_ofMantissaAndAccuracy] at h
  exact h

/-- An exact number that is not shifted stays. -/
@[simp] theorem roundedQuotient_zero (m : Nat) : roundedQuotient m .exact 0 = m := rfl

/-! ## Zeros shifted out -/

theorem shiftRight_add (em : ExtendedMantissa) (k i : Nat) : em >>> (k + i) = (em >>> k) >>> i := by
  induction i with
  | zero => rfl
  | succ i ih => rw [← Nat.add_assoc, shiftRight_succ, ih, shiftRight_succ]

theorem shiftRight_of_mul (m k : Nat) :
    ExtendedMantissa.ofMantissaAndAccuracy (m * 2 ^ k) .exact >>> k =
      ExtendedMantissa.ofMantissaAndAccuracy m .exact := by
  induction k generalizing m with
  | zero => rw [Nat.pow_zero, Nat.mul_one]; rfl
  | succ k ih =>
    have hzero : m * 2 % 2 = 0 := Nat.mul_mod_left m 2
    have hhalf : m * 2 / 2 = m := Nat.mul_div_cancel m (by decide)
    rw [shiftRight_succ, Nat.pow_succ', ← Nat.mul_assoc, ih]
    simp only [ExtendedMantissa.ofMantissaAndAccuracy, ExtendedMantissa.shiftRightOne, hzero, hhalf]
    rfl

/-- Zeros at the end do not matter. -/
theorem roundedQuotient_mul (m k i : Nat) :
    roundedQuotient (m * 2 ^ k) .exact (k + i) = roundedQuotient m .exact i := by
  rw [roundedQuotient, roundedQuotient, shiftRight_add, shiftRight_of_mul]

/-! ## Greater numbers -/

/-- The digits kept, the first of those shifted out, and whether any other of these is a one: this
much decides how a number is rounded. -/
def weight (em : ExtendedMantissa) : Nat :=
  4 * em.mantissa + 2 * em.roundBit.toNat + em.stickyBit.toNat

theorem weight_shiftRightOne_mono {a b : ExtendedMantissa} (h : weight a ≤ weight b) :
    weight a.shiftRightOne ≤ weight b.shiftRightOne := by
  have hbit (m : Nat) : (m % 2 != 0).toNat = m % 2 := by
    rcases Nat.mod_two_eq_zero_or_one m with hm | hm <;> rw [hm] <;> rfl
  rcases a with ⟨m, _ | _, _ | _⟩ <;> rcases b with ⟨n, _ | _, _ | _⟩ <;>
    simp only [weight, ExtendedMantissa.shiftRightOne, hbit, Bool.or_self, Bool.or_true,
      Bool.or_false, Bool.toNat_true, Bool.toNat_false] at h ⊢ <;> omega

theorem roundedMantissa_mono {a b : ExtendedMantissa} (h : weight a ≤ weight b) :
    a.roundedMantissa ≤ b.roundedMantissa := by
  rcases a with ⟨m, _ | _, _ | _⟩ <;> rcases b with ⟨n, _ | _, _ | _⟩ <;>
    simp only [weight, ExtendedMantissa.roundedMantissa, ExtendedMantissa.accuracy,
      Accuracy.roundToNearestEven, Bool.toNat_true, Bool.toNat_false] at h ⊢ <;> omega

/-- At one step a greater number is not rounded to a smaller quotient. -/
theorem roundedQuotient_mono {m n : Nat} (h : m ≤ n) (j : Nat) :
    roundedQuotient m .exact j ≤ roundedQuotient n .exact j := by
  apply roundedMantissa_mono
  induction j with
  | zero => exact Nat.add_le_add_right (Nat.add_le_add_right (Nat.mul_le_mul_left 4 h) _) _
  | succ j ih => exact weight_shiftRightOne_mono ih

/-- At a greater step neither, if that step leaves all 53 digits of the greater number. -/
theorem roundedQuotient_steps_mono {m n i j : Nat} (h : m ≤ n) (hij : i ≤ j)
    (hm : roundedQuotient m .exact i ≤ 2 ^ 53)
    (hn : i < j → 2 ^ 52 ≤ roundedQuotient n .exact j) :
    roundedQuotient m .exact i * 2 ^ i ≤ roundedQuotient n .exact j * 2 ^ j := by
  rcases Nat.lt_or_eq_of_le hij with hlt | rfl
  · -- The carry at the smaller step is the least number with all digits at the next.
    calc roundedQuotient m .exact i * 2 ^ i
        ≤ 2 ^ 53 * 2 ^ i := Nat.mul_le_mul_right _ hm
      _ = 2 ^ 52 * 2 ^ (i + 1) := by rw [Nat.pow_succ 2 i]; ring
      _ ≤ roundedQuotient n .exact j * 2 ^ j :=
        Nat.mul_le_mul (hn hlt) (Nat.pow_le_pow_right (by decide) hlt)
  · exact Nat.mul_le_mul_right _ (roundedQuotient_mono h _)

/-! ## Rounding down -/

/-- A quotient is rounded up only if the next digit is a one. -/
theorem roundedQuotient_of_even {m : Nat} (acc : Accuracy) {n : Nat} (h : m / 2 ^ n % 2 = 0) :
    roundedQuotient m acc (n + 1) = m / 2 ^ (n + 1) := by
  rw [roundedQuotient, roundedMantissa_of_roundBit, mantissa_shiftRight,
    mantissa_ofMantissaAndAccuracy]
  rw [roundBit_shiftRight, mantissa_ofMantissaAndAccuracy, h]; rfl

/-! ## The exponent aimed at -/

theorem targetExponent_eq (t : Int) :
    Format.binary64.targetExponent t = max (t - 53) (-1074) := rfl

/-- The number of the leading digits that are kept. -/
theorem div_lt_of_log2 (m n : Nat) (h : m.log2 + 1 ≤ n + 53) : m / 2 ^ n < 2 ^ 53 := by
  rw [Nat.div_lt_iff_lt_mul (Nat.two_pow_pos n), ← Nat.pow_add]
  have : m < 2 ^ (m.log2 + 1) := Nat.lt_log2_self
  exact this.trans_le (Nat.pow_le_pow_right (by decide) (by omega))

/-- With all 53 digits in place the first of them is a one. -/
theorem le_div_of_log2 {m n : Nat} (hm : m ≠ 0) (h : m.log2 = n + 52) : 2 ^ 52 ≤ m / 2 ^ n := by
  rw [Nat.le_div_iff_mul_le (Nat.two_pow_pos n), ← Nat.pow_add]
  have : 2 ^ m.log2 ≤ m := Nat.log2_self_le hm
  rwa [show 52 + n = m.log2 by omega]

/-- A number from its parts. -/
def ofParts (s : Sign) (m : Nat) (e : Int) : UnpackedFloat :=
  if h : m = 0 then .zero s else .finite s m e (Nat.pos_of_ne_zero h)

/-- A 54th digit, which only a carry brings about, moves the exponent by one. -/
def carry (r : Nat) (t : Int) : Nat × Int :=
  if r = 2 ^ 53 then (2 ^ 52, t + 1) else (r, t)

/-- The second shift takes in the carry and does nothing else. -/
theorem shiftToTargetExponent_carry {r : Nat} {t : Int} (ht : -1074 ≤ t) (hr : r ≤ 2 ^ 53) :
    (shiftToTargetExponent .binary64 r t .exact).1.mantissa = (carry r t).1 ∧
      (shiftToTargetExponent .binary64 r t .exact).2 = (carry r t).2 := by
  simp only [shiftToTargetExponent, shiftToExponent, mantissa_shiftRight,
    mantissa_ofMantissaAndAccuracy, targetExponent_eq, totalExponent, carry]
  by_cases h : r = 2 ^ 53
  · have hlog : (2 ^ 53 : Nat).log2 = 53 := Nat.log2_two_pow
    rw [if_pos h, h, hlog]
    have hn : (max ((53 : Nat) + 1 + t - 53) (-1074) - t).toNat = 1 := by omega
    rw [hn]
    exact ⟨by norm_num, rfl⟩
  · have hlog : r.log2 < 53 := by
      by_cases h0 : r = 0
      · rw [h0]; decide
      · exact (Nat.log2_lt h0).mpr (by omega)
    have hn : (max ((r.log2 : Int) + 1 + t - 53) (-1074) - t).toNat = 0 := by omega
    rw [hn, if_neg h, Nat.pow_zero, Nat.div_one]
    exact ⟨rfl, by omega⟩

/-- Rounding keeps the digits above the exponent aimed at. -/
theorem roundWithAccuracy_eq (s : Sign) (m : Nat) (e : Int) (acc : Accuracy) {t : Int}
    (ht : Format.binary64.targetExponent (totalExponent m e) = t) (he : e ≤ t) :
    roundWithAccuracy .binary64 s m e acc =
      ofParts s (carry (roundedQuotient m acc (t - e).toNat) t).1
        (carry (roundedQuotient m acc (t - e).toNat) t).2 := by
  have hlast := ht
  rw [targetExponent_eq, totalExponent] at hlast
  have hr : roundedQuotient m acc (t - e).toNat ≤ 2 ^ 53 := by
    have h1 := (roundedQuotient_bounds m acc (t - e).toNat).2
    have h2 := div_lt_of_log2 m (t - e).toNat (by omega)
    omega
  have hfirst : shiftToTargetExponent .binary64 m e acc
      = (ExtendedMantissa.ofMantissaAndAccuracy m acc >>> (t - e).toNat, t) := by
    rw [shiftToTargetExponent, ht, shiftToExponent]
    exact Prod.ext rfl (by simp only; omega)
  have hunfold : roundWithAccuracy .binary64 s m e acc =
      let (first, x) := shiftToTargetExponent .binary64 m e acc
      let (second, x) := shiftToTargetExponent .binary64 first.roundedMantissa x .exact
      ofParts s second.mantissa x := rfl
  obtain ⟨hm, hx⟩ := shiftToTargetExponent_carry (show -1074 ≤ t by omega) hr
  rw [hunfold, hfirst, ← hm, ← hx]
  rfl

/-! ## Units -/

/-- Infinity is as many units as `2 ^ 1024` would be. -/
def limit : Nat := 2 ^ 2098

/-- Half of the step between the greatest doubles. -/
def halfStep : Nat := 2 ^ 2044

theorem limit_eq : limit = 2 ^ 54 * halfStep := by rw [limit, halfStep, ← Nat.pow_add]

theorem halfStep_pos : 0 < halfStep := pow_pos (by decide) 2044

theorem limit_pos : 0 < limit := pow_pos (by decide) 2098

/-- A number in units of `2 ^ -1074`; an infinity stands at the limit. -/
def place : UnpackedFloat → Int
  | .notANumber | .zero _ => 0
  | .infinity s => s.apply limit
  | .finite s m e _ => s.apply (m * 2 ^ (e + 1074).toNat : Nat)

@[simp] theorem apply_zero (s : Sign) : s.apply 0 = 0 := by cases s <;> rfl

/-- A number in the form that all of them are kept in: 53 digits at most, and fewer only at the
least exponent. -/
def Tidy : UnpackedFloat → Prop
  | .finite _ m e _ => m < 2 ^ 53 ∧ -1074 ≤ e ∧ (2 ^ 52 ≤ m ∨ e = -1074)
  | _ => True

theorem place_ofParts (s : Sign) (m : Nat) (e : Int) :
    place (ofParts s m e) = s.apply (m * 2 ^ (e + 1074).toNat : Nat) := by
  rw [ofParts]
  by_cases h : m = 0
  · rw [dif_pos h, h, Nat.zero_mul]; simp [place]
  · rw [dif_neg h, place]

/-- A carry changes how a number is written and not the number. -/
theorem place_carry (s : Sign) (r : Nat) {t : Int} (ht : -1074 ≤ t) :
    place (ofParts s (carry r t).1 (carry r t).2) = s.apply (r * 2 ^ (t + 1074).toNat : Nat) := by
  rw [place_ofParts, carry]
  by_cases h : r = 2 ^ 53
  · rw [if_pos h, h, show (t + 1 + 1074).toNat = (t + 1074).toNat + 1 by omega]
    congr 2
    ring
  · rw [if_neg h]

theorem tidy_carry (s : Sign) {r : Nat} {t : Int} (hr : r ≤ 2 ^ 53) (ht : -1074 ≤ t)
    (hfull : 2 ^ 52 ≤ r ∨ t = -1074) : Tidy (ofParts s (carry r t).1 (carry r t).2) := by
  by_cases h : r = 2 ^ 53
  · rw [carry, if_pos h]
    exact ⟨by norm_num, by omega, Or.inl (le_refl _)⟩
  · rw [carry, if_neg h, ofParts]
    by_cases h0 : r = 0
    · rw [dif_pos h0]
      trivial
    · rw [dif_neg h0]
      exact ⟨by omega, ht, hfull⟩

/-- What it means that `r` steps of `2 ^ j` units are `n` units, rounded. -/
structure RoundsTo (n j r : Nat) : Prop where
  lower : n / 2 ^ j ≤ r
  upper : r ≤ n / 2 ^ j + 1
  /-- Less than half a step is rounded down. -/
  below_half : ∀ i, j = i + 1 → n / 2 ^ i % 2 = 0 → r = n / 2 ^ j

/-- The step to which a number of units is rounded: 53 digits are left. -/
def stepOf (n : Nat) : Nat := n.log2 - 52

theorem RoundsTo.le {n r : Nat} (h : RoundsTo n (stepOf n) r) : r ≤ 2 ^ 53 := by
  have := div_lt_of_log2 n (stepOf n) (by rw [stepOf]; omega)
  have := h.upper
  omega

/-- A step of more than one unit leaves all 53 digits. -/
theorem RoundsTo.full {n r : Nat} (h : RoundsTo n (stepOf n) r) : 2 ^ 52 ≤ r ∨ stepOf n = 0 := by
  by_cases h0 : n = 0
  · exact Or.inr (by rw [h0]; decide)
  · rw [stepOf] at h ⊢
    by_cases hlog : n.log2 ≤ 52
    · exact Or.inr (by omega)
    · have := le_div_of_log2 h0 (n := n.log2 - 52) (by omega)
      exact Or.inl (this.trans h.lower)

/-- Of the numbers with 53 digits and a carry, only the greatest at the greatest step reaches it. -/
theorem eq_of_top_le {r j k : Nat} (hr : r ≤ 2 ^ 53) (hj : j ≤ k)
    (h : 2 ^ 53 * 2 ^ k ≤ r * 2 ^ j) : r = 2 ^ 53 ∧ j = k := by
  have hstep : j = k := by
    by_contra hne
    have h1 : 2 ^ j < 2 ^ k := Nat.pow_lt_pow_right (by decide) (by omega)
    have h2 : r * 2 ^ j < 2 ^ 53 * 2 ^ k := Nat.mul_lt_mul_of_le_of_lt hr h1 (by decide)
    omega
  subst hstep
  have h3 : 2 ^ 53 ≤ r := Nat.le_of_mul_le_mul_right h (Nat.two_pow_pos j)
  exact ⟨by omega, rfl⟩

/-- It takes half a step to bring a carry about. -/
theorem RoundsTo.half_le {n j k : Nat} (h : RoundsTo n j (2 ^ 53)) (hj : j = k + 1)
    (hn : n / 2 ^ j < 2 ^ 53) : (2 ^ 54 - 1) * 2 ^ k ≤ n := by
  subst hj
  have hdiv : n / 2 ^ k / 2 = n / 2 ^ (k + 1) := by
    rw [Nat.div_div_eq_div_mul, ← Nat.pow_succ]
  have hodd : n / 2 ^ k % 2 ≠ 0 := by
    intro heven
    have := h.below_half k rfl heven
    omega
  have hq : n / 2 ^ k = 2 ^ 54 - 1 := by
    have := h.upper
    omega
  rw [← hq]
  exact Nat.div_mul_le_self n _

/-- What lies more than half a step below the limit is rounded to a number below the limit. -/
theorem RoundsTo.lt_limit {n r : Nat} (h : RoundsTo n (stepOf n) r) (hn : n + halfStep < limit) :
    r * 2 ^ stepOf n < limit := by
  have hj : stepOf n ≤ 2045 := by
    rw [stepOf]
    by_cases h0 : n = 0
    · rw [h0]; decide
    · have : n.log2 < 2098 := (Nat.log2_lt h0).mpr (by rw [limit] at hn; omega)
      omega
  by_contra hlow
  have htop : limit = 2 ^ 53 * 2 ^ 2045 := by rw [limit, ← Nat.pow_add]
  obtain ⟨rfl, hstep⟩ := eq_of_top_le h.le hj (le_of_eq_of_le htop.symm (Nat.le_of_not_lt hlow))
  have hlt := div_lt_of_log2 n (stepOf n) (by rw [stepOf]; omega)
  rw [hstep] at h hlt
  have hge := RoundsTo.half_le h (show 2045 = 2044 + 1 from rfl) hlt
  rw [limit_eq, halfStep] at hn
  generalize (2 : Nat) ^ 2044 = half at hge hn
  omega

/-! ## Rounding a whole number of units -/

theorem log2_mul_two_pow {m : Nat} (hm : m ≠ 0) (k : Nat) : (m * 2 ^ k).log2 = m.log2 + k := by
  have hpos : m * 2 ^ k ≠ 0 := Nat.mul_ne_zero hm (Nat.two_pow_pos k).ne'
  rw [Nat.log2_eq_iff hpos, Nat.pow_add, Nat.add_right_comm, Nat.pow_add]
  exact ⟨Nat.mul_le_mul_right _ (Nat.log2_self_le hm),
    Nat.mul_lt_mul_of_pos_right Nat.lt_log2_self (Nat.two_pow_pos k)⟩

/-- Moving digits between number and exponent does not move the leading digit. -/
theorem totalExponent_decreaseExponent {m : Nat} (hm : m ≠ 0) (e t : Int) :
    totalExponent (decreaseExponent m e t).1 (decreaseExponent m e t).2 = totalExponent m e := by
  simp only [totalExponent, decreaseExponent, Nat.shiftLeft_eq, log2_mul_two_pow hm]
  omega

theorem roundsTo_roundedQuotient (n j : Nat) : RoundsTo n j (roundedQuotient n .exact j) := by
  obtain ⟨hlower, hupper⟩ := roundedQuotient_bounds n .exact j
  refine ⟨hlower, hupper, ?_⟩
  rintro i rfl heven
  exact roundedQuotient_of_even .exact heven

/-- Rounding leaves the leading 53 digits of a number of units. -/
theorem round_eq (s : Sign) {m n : Nat} {e : Int} (hm : m ≠ 0) (he : -1074 ≤ e)
    (hn : n = m * 2 ^ (e + 1074).toNat) :
    round .binary64 s m e =
      ofParts s (carry (roundedQuotient n .exact (stepOf n)) (stepOf n - 1074)).1
        (carry (roundedQuotient n .exact (stepOf n)) (stepOf n - 1074)).2 := by
  have hlog : n.log2 = m.log2 + (e + 1074).toNat := by rw [hn, log2_mul_two_pow hm]
  have ht : Format.binary64.targetExponent (totalExponent m e) = (stepOf n : Int) - 1074 := by
    rw [targetExponent_eq, totalExponent, stepOf]; omega
  generalize stepOf n = j at ht ⊢
  have hround : round .binary64 s m e =
      roundWithAccuracy .binary64 s (decreaseExponent m e (j - 1074)).1
        (decreaseExponent m e (j - 1074)).2 .exact := by
    rw [← ht]; rfl
  have htarget : Format.binary64.targetExponent (totalExponent (decreaseExponent m e (j - 1074)).1
      (decreaseExponent m e (j - 1074)).2) = (j : Int) - 1074 := by
    rw [totalExponent_decreaseExponent hm, ht]
  have hshift : (decreaseExponent m e (j - 1074)).2 ≤ (j : Int) - 1074 := by
    simp only [decreaseExponent]; omega
  -- The digits are moved up by `d`, so that units stand `k` digits below the last of them.
  obtain ⟨d, hd⟩ : ∃ d : Nat, (e - ((j : Int) - 1074)).toNat = d := ⟨_, rfl⟩
  obtain ⟨k, hk⟩ : ∃ k : Nat, e - d + 1074 = k := ⟨(e - d + 1074).toNat, by omega⟩
  have hunits : n = m * 2 ^ d * 2 ^ k := by
    rw [hn, Nat.mul_assoc, ← Nat.pow_add, show (e + 1074).toNat = d + k by omega]
  have hstep : j = k + ((j : Int) - 1074 - (e - d)).toNat := by omega
  rw [hround, roundWithAccuracy_eq s _ _ _ htarget hshift]
  simp only [decreaseExponent, Nat.shiftLeft_eq, hd]
  rw [hunits, ← roundedQuotient_mul (m * 2 ^ d) k, ← hstep]

/-! ## Units that units are rounded to -/

/-- What a number of units is rounded to. -/
def roundUnits (n : Nat) : Nat := roundedQuotient n .exact (stepOf n) * 2 ^ stepOf n

@[simp] theorem roundUnits_zero : roundUnits 0 = 0 := by decide

theorem log2_mono {m n : Nat} (h : m ≤ n) : m.log2 ≤ n.log2 := by
  rw [Nat.log2_eq_log_two, Nat.log2_eq_log_two]
  exact Nat.log_mono_right h

theorem stepOf_mono {m n : Nat} (h : m ≤ n) : stepOf m ≤ stepOf n :=
  Nat.sub_le_sub_right (log2_mono h) 52

/-- What a number is rounded to grows with it. -/
theorem roundUnits_mono {m n : Nat} (h : m ≤ n) : roundUnits m ≤ roundUnits n :=
  roundedQuotient_steps_mono h (stepOf_mono h) (roundsTo_roundedQuotient m (stepOf m)).le fun hlt =>
    (roundsTo_roundedQuotient n (stepOf n)).full.resolve_right (by omega)

/-- Only nothing is rounded to nothing. -/
theorem roundUnits_pos {n : Nat} (h : 0 < n) : 0 < roundUnits n := by
  have hstep : 2 ^ stepOf n ≤ n :=
    (Nat.pow_le_pow_right (by decide) (Nat.sub_le _ _)).trans (Nat.log2_self_le h.ne')
  have hq : 0 < n / 2 ^ stepOf n := Nat.div_pos hstep (Nat.two_pow_pos _)
  exact Nat.mul_pos (hq.trans_le (roundsTo_roundedQuotient n _).lower) (Nat.two_pow_pos _)

theorem roundUnits_eq_zero_iff {n : Nat} : roundUnits n = 0 ↔ n = 0 := by
  refine ⟨fun h => ?_, fun h => by rw [h, roundUnits_zero]⟩
  by_contra hn
  exact (roundUnits_pos (Nat.pos_of_ne_zero hn)).ne' h

/-- What 53 digits can hold is not rounded. -/
theorem roundUnits_self {m : Nat} (hm : m < 2 ^ 53) (k : Nat) :
    roundUnits (m * 2 ^ k) = m * 2 ^ k := by
  by_cases h0 : m = 0
  · rw [h0, Nat.zero_mul, roundUnits_zero]
  · have hlog : m.log2 < 53 := (Nat.log2_lt h0).mpr hm
    have hstep : stepOf (m * 2 ^ k) ≤ k := by
      rw [stepOf, log2_mul_two_pow h0]; omega
    unfold roundUnits
    generalize stepOf (m * 2 ^ k) = j at hstep ⊢
    have hsplit : m * 2 ^ k = m * 2 ^ (k - j) * 2 ^ j := by
      rw [Nat.mul_assoc, ← Nat.pow_add, Nat.sub_add_cancel hstep]
    have hq := roundedQuotient_mul (m * 2 ^ (k - j)) j 0
    rw [Nat.add_zero, roundedQuotient_zero] at hq
    rw [hsplit, hq]

theorem roundUnits_lt_limit {n : Nat} (h : n + halfStep < limit) : roundUnits n < limit :=
  (roundsTo_roundedQuotient n (stepOf n)).lt_limit h

end ChartLayer.Binary64
