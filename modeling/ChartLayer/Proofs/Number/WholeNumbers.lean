import ChartLayer.Proofs.Number.NotANumber
import ChartLayer.Proofs.Number.Numerals

/-!
# Whole numbers as doubles

A whole number of no more than 53 bits is a double, and no digit of it gets lost on the way there
and back.

* `units_ofInt`: the double that a whole number becomes is that number.
* `exists_parts`: the sign, digits and exponent of a finite double say how many units it is.
* `floorInt?_ofInt`: rounding down gives the whole number back.
-/

namespace ChartLayer

open Float.Model (UnpackedFloat)

namespace Binary64

/-- How many units one is. -/
def perOne : Nat := 2 ^ 1074

theorem perOne_pos : 0 < perOne := pow_pos (by decide) 1074

theorem mul_perOne_lt_limit {n : Nat} (h : n < 2 ^ 53) : n * perOne < limit := by
  have hstep : perOne ≤ halfStep := by
    rw [perOne, halfStep, Nat.pow_le_pow_iff_right (by decide)]
    decide
  rw [limit_eq]
  exact Nat.mul_lt_mul_of_lt_of_le (h.trans (by decide)) hstep halfStep_pos

/-- A product that is a whole number of units is rounded as that number is. -/
theorem roundProduct_mul_perOne (n : Nat) : roundProduct (n * perOne) = roundUnits n := by
  by_cases hn : n = 0
  · rw [hn, Nat.zero_mul, roundUnits_zero]
    decide +kernel
  · have hstep : productStep (n * perOne) = 1074 + stepOf n := by
      rw [productStep, stepOf, perOne, log2_mul_two_pow hn]
      omega
    rw [roundProduct, hstep, perOne, roundedQuotient_mul, Nat.add_sub_cancel_left, roundUnits]

/-- What is kept of a number below the limit. -/
theorem place_settle_of_lt {x : UnpackedFloat} (hx : Tidy x) (h : (place x).natAbs < limit) :
    place (settle x) = place x := by
  rw [place_settle hx]
  omega

theorem place_mul_one {x : UnpackedFloat} (hx : IsDouble x) (hfinite : x.isFinite = true)
    {one : UnpackedFloat} (hone : IsDouble one)
    (h : ∃ hm, one = .finite .positive (2 ^ 52) (-52) hm) :
    place (x.mul .binary64 one) = place x := by
  obtain ⟨hm, rfl⟩ := h
  have hunits : 2 ^ 52 * 2 ^ ((-52 : Int) + 1074).toNat = perOne := by
    rw [perOne, ← Nat.pow_add]
    congr 1
  rcases x with s | _ | s | ⟨s, m, e, hpos⟩
  case infinity | notANumber => cases hfinite
  case zero => rfl
  case finite =>
    have hs : s * .positive = s := by cases s <;> rfl
    rw [place_mul hx hone, hunits, roundProduct_mul_perOne, roundUnits_self hx.1.1, hs, place]

end Binary64

open Binary64 (perOne perOne_pos limit)

/-! ## From a whole number -/

theorem units_mul_one {x : Float} (hx : x.isFinite = true) : units (x * 1.0) = units x := by
  have hplace := Binary64.place_mul_one (isDouble x) hx (isDouble 1.0) ⟨by decide, rfl⟩
  have hlimit := (isFinite_iff.mp hx).2
  rw [units, unpack_mul, Binary64.place_settle_of_lt (Binary64.tidy_mul (isDouble x) (isDouble 1.0)),
    hplace]
  · rfl
  · rw [hplace]
    exact hlimit

theorem units_toFloat {n : UInt64} (h : n.toNat < 2 ^ 53) :
    units n.toFloat = (n.toNat * perOne : Nat) := by
  obtain ⟨hrounded, hunpack⟩ := unpack_toFloat n
  have hplace := hrounded.place_eq
  have hcast : (n.toNat : Int) * 2 ^ 1074 = (n.toNat * perOne : Nat) := by
    rw [perOne, Int.natCast_mul, Int.natCast_pow, Int.cast_ofNat_Int]
  rw [hcast, Binary64.roundSigned_natCast, perOne, Binary64.roundUnits_self h, ← perOne] at hplace
  rw [units, hunpack, Binary64.place_settle_of_lt hrounded.tidy, hplace]
  rw [hplace, Int.natAbs_natCast]
  exact Binary64.mul_perOne_lt_limit h

section Whole

variable {n : Nat} {i : Int}

theorem isFinite_of_units {x : Float} (hx : IsNumber x) (hi : i.natAbs < 2 ^ 53)
    (h : units x = i * perOne) : x.isFinite = true := by
  refine isFinite_iff.mpr ⟨hx, ?_⟩
  rw [h, Int.natAbs_mul, Int.natAbs_natCast]
  exact Binary64.mul_perOne_lt_limit hi

theorem units_ofNat (h : n < 2 ^ 53) : units (Float.ofNat n) = n * perOne := by
  have hback : n.toUInt64.toNat = n := Nat.mod_eq_of_lt (by omega)
  have hunits : units n.toUInt64.toFloat = n * perOne := by
    rw [units_toFloat (by rwa [hback]), hback]
    push_cast
    rfl
  rw [ofNat_eq_toFloat_mul_one h, units_mul_one, hunits]
  exact isFinite_of_units (isNumber_toFloat _) (by rwa [Int.natAbs_natCast]) hunits

theorem units_neg (x : Float) : units (-x) = -units x := by
  rw [units, unpack_neg, Binary64.place_neg]
  rfl

theorem isNumber_ofInt (h : i.natAbs < 2 ^ 53) : IsNumber (Float.ofInt i) := by
  cases i with
  | ofNat n => exact isNumber_ofNat h
  | negSucc n => exact isNumber_neg_iff.mpr (isNumber_ofNat h)

/-- **No digit is lost.** -/
theorem units_ofInt (h : i.natAbs < 2 ^ 53) : units (Float.ofInt i) = i * perOne := by
  cases i with
  | ofNat n => exact units_ofNat h
  | negSucc n =>
    have hneg : units (Float.ofInt (.negSucc n)) = -units (Float.ofNat (n + 1)) := units_neg _
    have habove : units (Float.ofNat (n + 1)) = (n + 1 : Nat) * perOne := units_ofNat h
    rw [hneg, habove, Int.negSucc_eq, Int.neg_mul, Int.natCast_succ]

theorem isFinite_ofInt (h : i.natAbs < 2 ^ 53) : (Float.ofInt i).isFinite = true :=
  isFinite_of_units (isNumber_ofInt h) h (units_ofInt h)

end Whole

/-! ## And back -/

theorem signed_mul (negative : Bool) (m k : Nat) :
    signed negative (m * k) = signed negative m * k := by
  cases negative <;> simp [signed]

/-- The parts of a finite double. -/
theorem exists_parts {x : Float} (hx : x.isFinite = true) :
    ∃ negative m e, Binary64.ofFloat x = .finite negative m e ∧ -1074 ≤ e ∧
      units x = signed negative (m * 2 ^ (e + 1074).toNat) := by
  obtain ⟨hnumber, hlimit⟩ := isFinite_iff.mp hx
  have hunits := units_eq_magnitudeOf hnumber
  have hbits : x.toBits.toNat < 2 ^ 64 := x.toBits.toNat_lt
  have hsign : Binary64.signBit = 2 ^ 63 := rfl
  have hhidden : Binary64.hiddenBit = 2 ^ 52 := rfl
  have hcount : Binary64.fieldCount = 2 ^ 11 := rfl
  -- the pattern without its sign, and the sign
  obtain ⟨pattern, negative, hnegative, hpattern, hsigned⟩ : ∃ pattern negative,
      decide (Binary64.signBit ≤ x.toBits.toNat) = negative ∧
      x.toBits.toNat % Binary64.signBit = pattern ∧
      units x = signed negative (Binary64.magnitudeOf pattern) := by
    refine ⟨_, _, rfl, rfl, ?_⟩
    rw [hunits]
    by_cases h : x.toBits.toNat < Binary64.signBit
    · rw [if_pos h, Nat.mod_eq_of_lt h, decide_eq_false (by omega), signed_false]
    · have hrest : x.toBits.toNat % Binary64.signBit = x.toBits.toNat - Binary64.signBit := by
        rw [hsign] at h ⊢; omega
      rw [if_neg h, hrest, decide_eq_true (by omega), signed_true]
  have hfield : x.toBits.toNat / Binary64.hiddenBit % Binary64.fieldCount = pattern / 2 ^ 52 := by
    rw [← hpattern, hhidden, hcount, hsign]; omega
  have hfraction : x.toBits.toNat % Binary64.hiddenBit = pattern % 2 ^ 52 := by
    rw [← hpattern, hhidden, hsign]; omega
  have htop : pattern / 2 ^ 52 ≠ 2047 := by
    intro htop
    have hmagnitude : limit ≤ Binary64.magnitudeOf pattern := by
      have hsplit : limit = 2 ^ 52 * 2 ^ (2047 - 1) := by rw [limit, ← Nat.pow_add]
      rw [Binary64.magnitudeOf, htop, if_neg (by decide), hsplit]
      exact Nat.mul_le_mul_right _ (Nat.le_add_right ..)
    rw [hsigned] at hlimit
    cases negative <;> simp only [signed_true, signed_false] at hlimit <;> omega
  rw [hsigned, Binary64.ofFloat, Binary64.magnitudeOf]
  simp only [hnegative, hfield, hfraction, if_neg htop]
  by_cases hzero : pattern / 2 ^ 52 = 0
  · refine ⟨negative, pattern % 2 ^ 52, -1074, if_pos hzero, le_refl _, ?_⟩
    rw [if_pos hzero, show ((-1074 : Int) + 1074).toNat = 0 from rfl, Nat.pow_zero, Nat.mul_one,
      Nat.mod_eq_of_lt (by omega)]
  · refine ⟨negative, _, _, if_neg hzero, by omega, ?_⟩
    rw [if_neg hzero, hhidden]
    congr 3
    omega

/-- A double that is a whole number is its own floor. -/
theorem floorInt?_of_units {x : Float} {i : Int} (hx : x.isFinite = true)
    (h : units x = i * perOne) : floorInt? x = some i := by
  obtain ⟨negative, m, e, hparts, he, hunits⟩ := exists_parts hx
  rw [h, signed_mul] at hunits
  have hdef : floorInt? x = some (if 0 ≤ e then signed negative m * twoPow e.toNat
      else (signed negative m).fdiv (twoPow (-e).toNat)) := by
    rw [floorInt?, hparts]
    rfl
  rw [hdef]
  congr 1
  generalize signed negative m = digits at hunits ⊢
  have hpos (k : Nat) : ((2 ^ k : Nat) : Int) ≠ 0 :=
    Int.natCast_ne_zero.mpr (Nat.two_pow_pos k).ne'
  by_cases hexponent : 0 ≤ e
  · rw [if_pos hexponent]
    have hsplit : 2 ^ (e + 1074).toNat = twoPow e.toNat * perOne := by
      rw [twoPow, Nat.pow_eq, perOne, ← Nat.pow_add, show (e + 1074).toNat = e.toNat + 1074 by omega]
    rw [hsplit, Int.natCast_mul, ← Int.mul_assoc] at hunits
    exact (Int.eq_of_mul_eq_mul_right (hpos 1074) hunits).symm
  · rw [if_neg hexponent]
    have hsplit : perOne = twoPow (-e).toNat * 2 ^ (e + 1074).toNat := by
      rw [twoPow, Nat.pow_eq, ← Nat.pow_add, show (-e).toNat + (e + 1074).toNat = 1074 by omega,
        perOne]
    rw [hsplit, Int.natCast_mul, ← Int.mul_assoc] at hunits
    rw [← Int.eq_of_mul_eq_mul_right (hpos _) hunits]
    exact Int.mul_fdiv_cancel i (hpos _)

theorem floorInt?_ofInt {i : Int} (h : i.natAbs < 2 ^ 53) : floorInt? (Float.ofInt i) = some i :=
  floorInt?_of_units (isFinite_ofInt h) (units_ofInt h)

end ChartLayer
