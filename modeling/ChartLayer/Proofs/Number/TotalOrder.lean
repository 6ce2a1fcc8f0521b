import ChartLayer.Proofs.Number.Units

/-!
# The total order and the numbers

Zones are sorted by the bit patterns of their bounds. Among doubles that are numbers that is the
order of the numbers: without its sign bit a pattern grows with the number it stands for
(`magnitudeOf_mono`), and the patterns with a sign bit are counted downwards.

* `units_eq_magnitudeOf`: the number of units of a pattern.
* `totalOrder_eq_iff`: no two doubles share a place.
* `le_of_orderKey_le`: what comes first is not greater.
-/

namespace ChartLayer

open Float.Model (UnpackedFloat Format)
open Float.Model.UnpackedFloat

namespace Binary64

/-- The number of units of a pattern without sign. The infinity stands at the limit. -/
def magnitudeOf (pattern : Nat) : Nat :=
  if pattern / 2 ^ 52 = 0 then pattern
  else (2 ^ 52 + pattern % 2 ^ 52) * 2 ^ (pattern / 2 ^ 52 - 1)

theorem magnitudeOf_mono {k l : Nat} (h : k ≤ l) : magnitudeOf k ≤ magnitudeOf l := by
  have hfield : k / 2 ^ 52 ≤ l / 2 ^ 52 := Nat.div_le_div_right h
  have hk : k % 2 ^ 52 < 2 ^ 52 := Nat.mod_lt k (by decide)
  have hl : 1 ≤ 2 ^ (l / 2 ^ 52 - 1) := Nat.one_le_two_pow
  unfold magnitudeOf
  by_cases hk0 : k / 2 ^ 52 = 0 <;> by_cases hl0 : l / 2 ^ 52 = 0
  · rw [if_pos hk0, if_pos hl0]
    exact h
  · -- From the patterns without a hidden bit to those with one.
    rw [if_pos hk0, if_neg hl0]
    calc k ≤ (2 ^ 52 + l % 2 ^ 52) * 1 := by omega
      _ ≤ _ := Nat.mul_le_mul_left _ hl
  · omega
  · rw [if_neg hk0, if_neg hl0]
    rcases Nat.lt_or_eq_of_le hfield with hlt | heq
    · -- A greater exponent outweighs every fraction.
      have hp : 2 ^ (k / 2 ^ 52 - 1 + 1) ≤ 2 ^ (l / 2 ^ 52 - 1) :=
        Nat.pow_le_pow_right (by decide) (by omega)
      calc (2 ^ 52 + k % 2 ^ 52) * 2 ^ (k / 2 ^ 52 - 1)
          ≤ (2 ^ 52 * 2) * 2 ^ (k / 2 ^ 52 - 1) := Nat.mul_le_mul_right _ (by omega)
        _ = 2 ^ 52 * 2 ^ (k / 2 ^ 52 - 1 + 1) := by rw [Nat.pow_succ]; ring
        _ ≤ (2 ^ 52 + l % 2 ^ 52) * 2 ^ (l / 2 ^ 52 - 1) := Nat.mul_le_mul (by omega) hp
    · rw [heq]
      exact Nat.mul_le_mul_right _ (by omega)

/-! ## The fields of a pattern -/

theorem toNat_unpackMantissa (b : BitVec Format.binary64.numBits) :
    (unpackMantissa b).toNat = b.toNat % 2 ^ 52 := by
  simp only [unpackMantissa, BitVec.toNat_cast, BitVec.extractLsb_toNat, Nat.shiftRight_zero]

theorem toNat_unpackExponent (b : BitVec Format.binary64.numBits) :
    (unpackExponent b).toNat = b.toNat / 2 ^ 52 % 2 ^ 11 := by
  simp only [unpackExponent, BitVec.toNat_cast, BitVec.extractLsb_toNat, Nat.shiftRight_eq_div_pow]

theorem ofBitVec_unpackSign (b : BitVec Format.binary64.numBits) :
    Sign.ofBitVec (unpackSign b) = if b.toNat < signBit then .positive else .negative := by
  have hb : b.toNat < 2 ^ 64 := b.isLt
  have hsign : signBit = 2 ^ 63 := rfl
  have hbit : (unpackSign b).toNat = b.toNat / 2 ^ 63 % 2 := by
    simp only [unpackSign, BitVec.toNat_cast, BitVec.extractLsb_toNat, Nat.shiftRight_eq_div_pow]
  by_cases h : b.toNat < signBit
  · have h0 : b.toNat / 2 ^ 63 % 2 = 0 := by omega
    rw [if_pos h, show unpackSign b = 0#1 from BitVec.eq_of_toNat_eq (hbit.trans h0)]
    rfl
  · have h1 : b.toNat / 2 ^ 63 % 2 = 1 := by omega
    rw [if_neg h, show unpackSign b = 1#1 from BitVec.eq_of_toNat_eq (hbit.trans h1)]
    rfl

/-- A pattern that stands for a number: its sign, and the units of what is left of it. -/
theorem place_unpack (b : BitVec Format.binary64.numBits)
    (h : unpack .binary64 b ≠ .notANumber) :
    place (unpack .binary64 b) =
      (Sign.ofBitVec (unpackSign b)).apply (magnitudeOf (b.toNat % signBit)) := by
  have hE := toNat_unpackExponent b
  have hM := toNat_unpackMantissa b
  have hsign : signBit = 2 ^ 63 := rfl
  have hfield : b.toNat % signBit / 2 ^ 52 = (unpackExponent b).toNat := by
    rw [hsign]; omega
  have hfraction : b.toNat % signBit % 2 ^ 52 = (unpackMantissa b).toNat := by
    rw [hsign]; omega
  have htop : (unpackExponent b).toNat = 2047 ↔ unpackExponent b = -1#11 :=
    ⟨fun h => BitVec.eq_of_toNat_eq h, fun h => congrArg BitVec.toNat h⟩
  have hbot : (unpackExponent b).toNat = 0 ↔ unpackExponent b = 0#11 :=
    ⟨fun h => BitVec.eq_of_toNat_eq h, fun h => congrArg BitVec.toNat h⟩
  have hzero : (unpackMantissa b).toNat = 0 ↔ unpackMantissa b = 0#52 :=
    ⟨fun h => BitVec.eq_of_toNat_eq h, fun h => congrArg BitVec.toNat h⟩
  have hdigits : (1#1 ++ unpackMantissa b).toNat = 2 ^ 52 + (unpackMantissa b).toNat := by
    rw [BitVec.toNat_append, Nat.shiftLeft_eq, Nat.mul_comm,
      ← Nat.two_pow_add_eq_or_of_lt (unpackMantissa b).isLt]
    rfl
  have hlow : (unpackExponent b).toNat = 0 → b.toNat % signBit = (unpackMantissa b).toNat := by
    rw [hsign] at hfield hfraction ⊢; omega
  have hbias : (Format.binary64.exponentBias : Int) = 1023 := rfl
  rw [magnitudeOf, hfield, hfraction]
  simp only [unpack] at h ⊢
  by_cases hinf : unpackExponent b = -1#11
  · rw [if_pos hinf] at h ⊢
    by_cases hm : unpackMantissa b = 0#52
    · have hlimit : limit = (2 ^ 52 + 0) * 2 ^ (2047 - 1) := by
        rw [limit, Nat.add_zero, ← Nat.pow_add]
      rw [if_pos hm, place, htop.mpr hinf, hzero.mpr hm, if_neg (by decide), hlimit]
    · rw [if_neg hm] at h
      exact absurd rfl h
  · rw [if_neg hinf]
    by_cases hsub : unpackExponent b = 0#11
    · rw [if_pos hsub, if_pos (hbot.mpr hsub)]
      by_cases hm : unpackMantissa b = 0#52
      · rw [dif_pos hm, place, hlow (hbot.mpr hsub), hzero.mpr hm]
        exact (apply_zero _).symm
      · rw [dif_neg hm, place, hlow (hbot.mpr hsub), hbot.mpr hsub, hbias]
        congr 2
        exact Nat.mul_one _
    · have hpos := mt hbot.mp hsub
      rw [if_neg hsub, if_neg hpos, place, hdigits, hbias]
      congr 4
      omega

/-- A pattern that stands for no number is that of NaN. -/
theorem eq_packedNaN {b : BitVec Format.binary64.numBits} (hb : Format.binary64.Valid b)
    (h : unpack .binary64 b = .notANumber) : b = packedNaN .binary64 := by
  simp only [unpack] at h
  by_cases hinf : unpackExponent b = -1#11
  · rw [if_pos hinf] at h
    refine hb.eq_packedNaN hinf fun hm => ?_
    rw [if_pos hm] at h
    cases h
  · rw [if_neg hinf] at h
    split at h
    · split at h <;> cases h
    · cases h

end Binary64

/-- A double that is a number: its sign, and the units of what is left of its pattern. -/
theorem units_eq_magnitudeOf {x : Float} (hx : IsNumber x) :
    units x = if x.toBits.toNat < Binary64.signBit then (Binary64.magnitudeOf x.toBits.toNat : Int)
      else -(Binary64.magnitudeOf (x.toBits.toNat - Binary64.signBit) : Int) := by
  have hbits : x.toBits.toNat < 2 ^ 64 := x.toBits.toNat_lt
  have hsign : Binary64.signBit = 2 ^ 63 := rfl
  have hplace : units x = Sign.apply _ (Binary64.magnitudeOf (x.toBits.toNat % Binary64.signBit)) :=
    Binary64.place_unpack x.toModel.toBits.toBitVec hx
  have hdef : x.toModel.toBits.toBitVec.toNat = x.toBits.toNat := rfl
  rw [hplace, Binary64.ofBitVec_unpackSign, hdef]
  by_cases h : x.toBits.toNat < Binary64.signBit
  · rw [if_pos h, if_pos h, Nat.mod_eq_of_lt h]
    rfl
  · have hrest : x.toBits.toNat % Binary64.signBit = x.toBits.toNat - Binary64.signBit := by
      rw [hsign] at h ⊢; omega
    rw [if_neg h, if_neg h, hrest]
    rfl

/-! ## Places -/

instance : Std.TransCmp totalOrder := inferInstanceAs (Std.TransCmp (compareOn orderKey))

/-- A double is told by its pattern. -/
theorem toBits_inj {x y : Float} : x.toBits = y.toBits ↔ x = y := by
  refine ⟨fun h => ?_, congrArg Float.toBits⟩
  obtain ⟨⟨p, hp⟩⟩ := x
  obtain ⟨⟨q, hq⟩⟩ := y
  obtain rfl : p = q := h
  rfl

/-- A double is told by its place. -/
theorem orderKey_inj {x y : Float} (h : orderKey x = orderKey y) : x = y := by
  have hsign : Binary64.signBit = 2 ^ 63 := rfl
  simp only [orderKey] at h
  apply toBits_inj.mp
  apply UInt64.toNat_inj.mp
  split at h <;> split at h <;> omega

theorem totalOrder_eq_iff {x y : Float} : totalOrder x y = .eq ↔ x = y := by
  rw [totalOrder, Std.LawfulEqOrd.compare_eq_iff_eq]
  exact ⟨orderKey_inj, congrArg orderKey⟩

instance : Std.LawfulEqCmp totalOrder where
  eq_of_compare := totalOrder_eq_iff.mp

instance : Std.TransCmp (Quantity.order (α := Float)) := inferInstanceAs (Std.TransCmp totalOrder)

instance : Std.LawfulEqCmp (Quantity.order (α := Float)) :=
  inferInstanceAs (Std.LawfulEqCmp totalOrder)

/-- **The total order.** Of two numbers the one that comes first is not greater. -/
theorem le_of_orderKey_le {x y : Float} (hx : IsNumber x) (hy : IsNumber y)
    (h : orderKey x ≤ orderKey y) : x ≤ y := by
  refine le_iff.mpr ⟨hx, hy, ?_⟩
  rw [units_eq_magnitudeOf hx, units_eq_magnitudeOf hy]
  simp only [orderKey] at h
  by_cases hx0 : x.toBits.toNat < Binary64.signBit <;>
    by_cases hy0 : y.toBits.toNat < Binary64.signBit
  · rw [if_pos hx0, if_pos hy0] at h ⊢
    exact Int.ofNat_le.mpr (Binary64.magnitudeOf_mono (by omega))
  · rw [if_pos hx0, if_neg hy0] at h
    omega
  · rw [if_neg hx0, if_pos hy0]
    omega
  · rw [if_neg hx0, if_neg hy0] at h ⊢
    exact Int.neg_le_neg (Int.ofNat_le.mpr (Binary64.magnitudeOf_mono (by omega)))

/-- There is one NaN. -/
theorem eq_of_nan {x y : Float} (hx : ¬IsNumber x) (hy : ¬IsNumber y) : x = y := by
  have hsame : x.toModel.toBits.toBitVec = y.toModel.toBits.toBitVec :=
    (Binary64.eq_packedNaN x.toModel.valid (Classical.not_not.mp hx)).trans
      (Binary64.eq_packedNaN y.toModel.valid (Classical.not_not.mp hy)).symm
  obtain ⟨⟨⟨p⟩, hp⟩⟩ := x
  obtain ⟨⟨⟨q⟩, hq⟩⟩ := y
  obtain rfl : p = q := hsame
  rfl

end ChartLayer
