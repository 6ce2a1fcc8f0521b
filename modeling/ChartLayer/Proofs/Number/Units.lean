import ChartLayer.Number.Quantity
import ChartLayer.Proofs.Number.Unpacked

/-!
# Doubles in units

`units` counts a double in the least double above zero. The comparisons of doubles that are numbers
are those of their units. Sum, difference and half are near enough to the exact result for sign and
size: that is what the checks of a price range rest on. A difference is ordered as the exact one is
(`double_sub_le_sub`, `double_sub_nonpos_iff`): that is what clusters of zones rest on.
-/

namespace ChartLayer

open Float.Model (UnpackedFloat)
open Binary64 (place limit halfStep)
open Quantity (larger smaller)

/-- How many times the least double above zero; an infinity stands at the limit. -/
def units (x : Float) : Int := place x.toModel.unpack

/-- Every double but NaN. -/
def IsNumber (x : Float) : Prop := x.toModel.unpack ≠ .notANumber

theorem isDouble (x : Float) : Binary64.IsDouble x.toModel.unpack :=
  Binary64.isDouble_unpack _

/-! ## Order -/

theorem compare_units {x y : Float} (hx : IsNumber x) (hy : IsNumber y) :
    x.toModel.unpack.compare y.toModel.unpack = some (compare (units x) (units y)) :=
  Binary64.compare_eq (isDouble x) (isDouble y) hx hy

/-- NaN is compared with nothing. -/
theorem compare_of_nan {x y : Float} (h : ¬(IsNumber x ∧ IsNumber y)) :
    x.toModel.unpack.compare y.toModel.unpack = none := by
  rw [IsNumber, IsNumber] at h
  by_cases hx : x.toModel.unpack = .notANumber
  · rw [hx]; rfl
  · rw [Classical.not_not.mp fun hy => h ⟨hx, hy⟩]
    cases x.toModel.unpack <;> rfl

/-- A comparison of doubles is one of units, between numbers. -/
theorem le_iff {x y : Float} : x ≤ y ↔ IsNumber x ∧ IsNumber y ∧ units x ≤ units y := by
  have hdef : x ≤ y ↔ (x.toModel.unpack.compare y.toModel.unpack).any (·.isLE) = true :=
    decide_eq_true_iff
  rw [hdef, ← and_assoc]
  by_cases h : IsNumber x ∧ IsNumber y
  · rw [compare_units h.1 h.2, Option.any_some, Ordering.isLE_iff_ne_gt]
    exact ⟨fun hle => ⟨h, compare_le_iff_le.mp hle⟩, fun hle => compare_le_iff_le.mpr hle.2⟩
  · rw [compare_of_nan h]
    exact ⟨fun hle => (nomatch hle), fun hle => absurd hle.1 h⟩

theorem lt_iff {x y : Float} : x < y ↔ IsNumber x ∧ IsNumber y ∧ units x < units y := by
  have hdef : x < y ↔ (x.toModel.unpack.compare y.toModel.unpack == some .lt) = true :=
    decide_eq_true_iff
  rw [hdef, ← and_assoc]
  by_cases h : IsNumber x ∧ IsNumber y
  · rw [compare_units h.1 h.2, beq_iff_eq, Option.some_inj, compare_lt_iff_lt]
    exact ⟨fun hle => ⟨h, hle⟩, And.right⟩
  · rw [compare_of_nan h]
    exact ⟨fun hle => (nomatch hle), fun hle => absurd hle.1 h⟩

theorem IsNumber.le_refl {x : Float} (hx : IsNumber x) : x ≤ x :=
  le_iff.mpr ⟨hx, hx, Int.le_refl _⟩

theorem double_le_of_lt {x y : Float} (h : x < y) : x ≤ y := by
  obtain ⟨hx, hy, hlt⟩ := lt_iff.mp h
  exact le_iff.mpr ⟨hx, hy, Int.le_of_lt hlt⟩

theorem double_le_trans {x y z : Float} (hxy : x ≤ y) (hyz : y ≤ z) : x ≤ z := by
  obtain ⟨hx, -, h1⟩ := le_iff.mp hxy
  obtain ⟨-, hz, h2⟩ := le_iff.mp hyz
  exact le_iff.mpr ⟨hx, hz, Int.le_trans h1 h2⟩

theorem double_not_lt_of_le {x y : Float} (h : x ≤ y) : ¬y < x := by
  rw [lt_iff]
  rw [le_iff] at h
  omega

theorem double_lt_of_lt_of_le {x y z : Float} (hxy : x < y) (hyz : y ≤ z) : x < z := by
  obtain ⟨hx, -, h1⟩ := lt_iff.mp hxy
  obtain ⟨-, hz, h2⟩ := le_iff.mp hyz
  exact lt_iff.mpr ⟨hx, hz, Int.lt_of_lt_of_le h1 h2⟩

theorem IsNumber.lt_of_not_le {x y : Float} (hx : IsNumber x) (hy : IsNumber y)
    (h : ¬y ≤ x) : x < y := by
  rw [le_iff] at h
  refine lt_iff.mpr ⟨hx, hy, ?_⟩
  by_contra hle
  exact h ⟨hy, hx, by omega⟩

theorem IsNumber.le_of_not_lt {x y : Float} (hx : IsNumber x) (hy : IsNumber y)
    (h : ¬y < x) : x ≤ y := by
  rw [lt_iff] at h
  refine le_iff.mpr ⟨hx, hy, ?_⟩
  by_contra hlt
  exact h ⟨hy, hx, by omega⟩

theorem IsNumber.le_of_not_le {x y : Float} (hx : IsNumber x) (hy : IsNumber y)
    (h : ¬y ≤ x) : x ≤ y :=
  hx.le_of_not_lt hy fun hlt => h (le_iff.mpr ⟨hy, hx, (lt_iff.mp hlt).2.2.le⟩)

/-- Only NaN differs from itself. -/
theorem isNumber_iff {x : Float} : Quantity.isNumber x = true ↔ IsNumber x := by
  have hdef : Quantity.isNumber x = (x.toModel.unpack.compare x.toModel.unpack == some .eq) := rfl
  rw [hdef, beq_iff_eq]
  by_cases h : IsNumber x
  · rw [compare_units h h, Option.some_inj, compare_eq_iff_eq]
    exact ⟨fun _ => h, fun _ => rfl⟩
  · rw [compare_of_nan fun hx => h hx.1]
    exact ⟨fun hx => (nomatch hx), fun hx => absurd hx h⟩

theorem isFinite_iff {x : Float} :
    x.isFinite = true ↔ IsNumber x ∧ (units x).natAbs < limit := by
  have hx := isDouble x
  have hdef : x.isFinite = x.toModel.unpack.isFinite := rfl
  rw [hdef, IsNumber, units]
  rcases hu : x.toModel.unpack with s | _ | s | ⟨s, m, e, hm⟩
  · simp only [UnpackedFloat.isFinite, Bool.false_eq_true, false_iff, place]
    rw [Binary64.natAbs_apply]
    omega
  · simp [UnpackedFloat.isFinite]
  · simp [UnpackedFloat.isFinite, place, Binary64.limit_pos]
  · rw [hu] at hx
    simp only [UnpackedFloat.isFinite, place, Binary64.natAbs_apply, Int.natAbs_natCast, true_iff]
    exact ⟨UnpackedFloat.noConfusion, Binary64.magnitude_lt hx.1.1 hx.2⟩

theorem IsNumber.of_isFinite {x : Float} (h : x.isFinite = true) : IsNumber x :=
  (isFinite_iff.mp h).1

/-! ## The larger and the smaller number -/

/-- Of two numbers the larger is one of both, and neither is above it. -/
theorem larger_spec {a b : Float} (ha : IsNumber a) (hb : IsNumber b) :
    (larger a b = a ∨ larger a b = b) ∧ a ≤ larger a b ∧ b ≤ larger a b := by
  unfold larger
  rw [if_pos (isNumber_iff.mpr ha), isNumber_iff.mpr hb]
  by_cases hlt : a < b
  · rw [if_pos (by simpa using hlt)]
    exact ⟨Or.inr rfl, double_le_of_lt hlt, hb.le_refl⟩
  · rw [if_neg (by simpa using hlt)]
    exact ⟨Or.inl rfl, ha.le_refl, hb.le_of_not_lt ha hlt⟩

/-- Of two numbers the smaller is one of both, and neither is below it. -/
theorem smaller_spec {a b : Float} (ha : IsNumber a) (hb : IsNumber b) :
    (smaller a b = a ∨ smaller a b = b) ∧ smaller a b ≤ a ∧ smaller a b ≤ b := by
  unfold smaller
  rw [if_pos (isNumber_iff.mpr ha), isNumber_iff.mpr hb]
  by_cases hlt : b < a
  · rw [if_pos (by simpa using hlt)]
    exact ⟨Or.inr rfl, double_le_of_lt hlt, hb.le_refl⟩
  · rw [if_neg (by simpa using hlt)]
    exact ⟨Or.inl rfl, ha.le_refl, ha.le_of_not_lt hb hlt⟩

/-- The smaller of NaN and another is the other. -/
theorem smaller_of_nan {a : Float} (ha : ¬IsNumber a) (b : Float) : smaller a b = b :=
  if_neg fun hself => ha (isNumber_iff.mp hself)

theorem isFinite_larger {a b : Float} (ha : a.isFinite = true) (hb : b.isFinite = true) :
    (larger a b).isFinite = true := by
  rcases (larger_spec (.of_isFinite ha) (.of_isFinite hb)).1 with h | h <;> rw [h] <;> assumption

theorem isFinite_smaller {a b : Float} (ha : a.isFinite = true) (hb : b.isFinite = true) :
    (smaller a b).isFinite = true := by
  rcases (smaller_spec (.of_isFinite ha) (.of_isFinite hb)).1 with h | h <;> rw [h] <;> assumption

theorem lt_positiveInfinity {x : Float} (hx : x.isFinite = true) : x < positiveInfinity := by
  obtain ⟨hnum, hlt⟩ := isFinite_iff.mp hx
  have hinf : positiveInfinity.toModel.unpack = .infinity .positive := rfl
  refine lt_iff.mpr ⟨hnum, by rw [IsNumber, hinf]; exact Float.Model.UnpackedFloat.noConfusion, ?_⟩
  rw [units.eq_def positiveInfinity, hinf]
  simp only [Binary64.place, Float.Model.UnpackedFloat.Sign.apply]
  omega

theorem negativeInfinity_lt {x : Float} (hx : x.isFinite = true) : negativeInfinity < x := by
  obtain ⟨hnum, hlt⟩ := isFinite_iff.mp hx
  have hinf : negativeInfinity.toModel.unpack = .infinity .negative := rfl
  refine lt_iff.mpr ⟨by rw [IsNumber, hinf]; exact Float.Model.UnpackedFloat.noConfusion, hnum, ?_⟩
  rw [units.eq_def negativeInfinity, hinf]
  simp only [Binary64.place, Float.Model.UnpackedFloat.Sign.apply]
  omega

/-! ## Arithmetic -/

/-- `x` is what `n` units are rounded to, as far as sign and size go. -/
structure Rounds (n : Int) (x : Float) : Prop where
  number : IsNumber x
  nonneg : 0 ≤ n → 0 ≤ units x
  nonpos : n ≤ 0 → units x ≤ 0
  finite : n.natAbs + halfStep < limit → x.isFinite = true

/-- A result that is kept: an infinity in place of what reaches the limit. -/
theorem unpack_ofModel_pack {x : UnpackedFloat} (hx : Binary64.Tidy x) :
    (Float.ofModel (Float.Model.pack x)).toModel.unpack = Binary64.settle x :=
  Binary64.unpack_pack hx

theorem rounds_pack {n : Int} {x : UnpackedFloat} (h : Binary64.Approximates n x) :
    Rounds n (Float.ofModel (Float.Model.pack x)) := by
  obtain ⟨hnum, hpos, hneg, hle⟩ := Binary64.settle_bounds h.tidy h.number
  have hu := unpack_ofModel_pack h.tidy
  refine ⟨?_, ?_, ?_, ?_⟩
  · rw [IsNumber, hu]
    exact hnum
  · intro h0
    rw [units, hu]
    exact hpos (h.nonneg h0)
  · intro h0
    rw [units, hu]
    exact hneg (h.nonpos h0)
  · intro hb
    rw [isFinite_iff, IsNumber, units, hu]
    exact ⟨hnum, hle.trans_lt (h.below hb)⟩

theorem rounds_add {x y : Float} (hx : x.isFinite = true) (hy : y.isFinite = true) :
    Rounds (units x + units y) (x + y) :=
  rounds_pack (Binary64.isRounded_add (isDouble x) (isDouble y) hx hy).approximates

theorem rounds_sub {x y : Float} (hx : x.isFinite = true) (hy : y.isFinite = true) :
    Rounds (units x - units y) (x - y) :=
  rounds_pack (Binary64.isRounded_sub (isDouble x) (isDouble y) hx hy).approximates

/-- A sum with NaN is NaN. -/
theorem IsNumber.of_add {x y : Float} (h : IsNumber (x + y)) : IsNumber x ∧ IsNumber y := by
  have hnan : (Float.ofModel (Float.Model.pack .notANumber)).toModel.unpack = .notANumber :=
    unpack_ofModel_pack trivial
  have hsum : x + y = Float.ofModel (Float.Model.pack
      (x.toModel.unpack.add .binary64 y.toModel.unpack)) := rfl
  have hright (u : UnpackedFloat) : u.add .binary64 .notANumber = .notANumber := by
    cases u <;> rfl
  rw [IsNumber, hsum] at h
  constructor
  · intro hx
    rw [hx] at h
    exact h hnan
  · intro hy
    rw [hy, hright] at h
    exact h hnan

/-! ## Differences -/

/-- The difference is the exact one, rounded and held between the infinities. -/
theorem units_sub {x y : Float} (hx : x.isFinite = true) (hy : y.isFinite = true) :
    units (x - y) =
      max (-(limit : Int)) (min limit (Binary64.roundSigned (units x - units y))) := by
  have h := Binary64.isRounded_sub (isDouble x) (isDouble y) hx hy
  have hkept : (x - y).toModel.unpack = Binary64.settle _ := unpack_ofModel_pack h.tidy
  rw [units, hkept, Binary64.place_settle h.tidy, h.place_eq]
  rfl

/-- A difference grows with what is taken from, and falls with what is taken away. -/
theorem double_sub_le_sub {a b c d : Float} (ha : a.isFinite = true) (hb : b.isFinite = true)
    (hc : c.isFinite = true) (hd : d.isFinite = true) (hac : a ≤ c) (hdb : d ≤ b) :
    a - b ≤ c - d := by
  refine le_iff.mpr ⟨(rounds_sub ha hb).number, (rounds_sub hc hd).number, ?_⟩
  have hac' := (le_iff.mp hac).2.2
  have hdb' := (le_iff.mp hdb).2.2
  have hmono := Binary64.roundSigned_mono (show units a - units b ≤ units c - units d by omega)
  rw [units_sub ha hb, units_sub hc hd]
  omega

theorem isNumber_zero : IsNumber 0.0 := IsNumber.of_isFinite (by decide +kernel)

@[simp] theorem units_zero : units 0.0 = 0 := by decide +kernel

/-- A difference is not above zero just if the numbers are in order. -/
theorem double_sub_nonpos_iff {a b : Float} (ha : a.isFinite = true) (hb : b.isFinite = true) :
    a - b ≤ 0.0 ↔ a ≤ b := by
  have hpos := Binary64.limit_pos
  have hiff := Binary64.roundSigned_nonpos_iff (n := units a - units b)
  rw [le_iff, le_iff, units_sub ha hb, units_zero]
  refine ⟨fun h => ⟨IsNumber.of_isFinite ha, IsNumber.of_isFinite hb, by omega⟩,
    fun h => ⟨(rounds_sub ha hb).number, isNumber_zero, by omega⟩⟩

theorem double_sub_neg_iff {a b : Float} (ha : a.isFinite = true) (hb : b.isFinite = true) :
    a - b < 0.0 ↔ a < b := by
  have hpos := Binary64.limit_pos
  have hiff := Binary64.roundSigned_nonneg_iff (n := units a - units b)
  rw [lt_iff, lt_iff, units_sub ha hb, units_zero]
  refine ⟨fun h => ⟨IsNumber.of_isFinite ha, IsNumber.of_isFinite hb, by omega⟩,
    fun h => ⟨(rounds_sub ha hb).number, isNumber_zero, by omega⟩⟩

/-! ## Small numbers -/

/-- A finite double stays the greatest step below the limit. -/
theorem natAbs_units_le {x : Float} (hx : x.isFinite = true) :
    (units x).natAbs + 2 * halfStep ≤ limit := by
  have hd := isDouble x
  have hfin : x.toModel.unpack.isFinite = true := hx
  rw [units]
  rcases hu : x.toModel.unpack with s | _ | s | ⟨s, m, e, hm⟩
  case infinity | notANumber => rw [hu] at hfin; cases hfin
  case zero =>
    have hlim := Binary64.limit_eq
    rw [place]
    omega
  case finite =>
    rw [hu] at hd
    rw [place, Binary64.natAbs_apply, Int.natAbs_natCast]
    exact Binary64.magnitude_le hd.1.1 hd.2

/-- Less than half of the greatest step: added to a finite double it leaves a finite one. -/
def IsSmall (x : Float) : Prop := IsNumber x ∧ (units x).natAbs < halfStep

theorem isSmall_of_exponent {x : Float} {s : UnpackedFloat.Sign} {m : Nat} {e : Int} {h : 0 < m}
    (hx : x.toModel.unpack = .finite s m e h) (he : e ≤ 917) : IsSmall x := by
  have hd := isDouble x
  rw [hx] at hd
  have hle := Binary64.mul_two_pow_le hd.1.1 (show (e + 1074).toNat ≤ 1991 by omega)
  have htop : halfStep = 2 ^ 53 * 2 ^ 1991 := by rw [halfStep, ← Nat.pow_add]
  have hpos : 0 < 2 ^ 1991 := pow_pos (by decide) 1991
  refine ⟨by rw [IsNumber, hx]; exact UnpackedFloat.noConfusion, ?_⟩
  rw [units, hx, place, Binary64.natAbs_apply, Int.natAbs_natCast, htop]
  exact (Nat.lt_add_of_pos_right hpos).trans_le hle

theorem IsSmall.isFinite {x : Float} (h : IsSmall x) : x.isFinite = true := by
  have hlim := Binary64.limit_eq
  have hlt := h.2
  exact isFinite_iff.mpr ⟨h.1, by omega⟩

theorem isFinite_add {x y : Float} (hx : x.isFinite = true) (hy : IsSmall y) :
    (x + y).isFinite = true := by
  apply (rounds_add hx hy.isFinite).finite
  have h1 := natAbs_units_le hx
  have h2 := hy.2
  omega

theorem isFinite_sub {x y : Float} (hx : x.isFinite = true) (hy : IsSmall y) :
    (x - y).isFinite = true := by
  apply (rounds_sub hx hy.isFinite).finite
  have h1 := natAbs_units_le hx
  have h2 := hy.2
  omega

/-- A half is no farther from zero, but for rounding. -/
theorem half_le {x : Float} (hx : x.isFinite = true) :
    IsNumber (x / 2.0) ∧ (units (x / 2.0)).natAbs ≤ (units x).natAbs + 1 := by
  obtain ⟨ht, hn, hle⟩ := Binary64.half_bounds (isDouble x) hx
  have hdiv : x / 2.0 =
      Float.ofModel (Float.Model.pack (x.toModel.unpack.div .binary64 Binary64.two)) := rfl
  obtain ⟨hnum, -, -, hset⟩ := Binary64.settle_bounds ht hn
  rw [hdiv, IsNumber, units, unpack_ofModel_pack ht]
  exact ⟨hnum, hset.trans hle⟩

/-- Half of a number is a number; half of an infinity is one. -/
theorem IsNumber.half {x : Float} (hx : IsNumber x) : IsNumber (x / 2.0) := by
  have hdiv : x / 2.0 =
      Float.ofModel (Float.Model.pack (x.toModel.unpack.div .binary64 Binary64.two)) := rfl
  rcases hu : x.toModel.unpack with s | _ | s | ⟨s, m, e, hm⟩
  case notANumber => exact absurd hu hx
  case infinity =>
    have hinf : UnpackedFloat.div .binary64 (.infinity s) Binary64.two =
        .infinity (s / .positive) := rfl
    have htidy : Binary64.Tidy (.infinity (s / .positive)) := trivial
    rw [hdiv, IsNumber, hu, hinf, unpack_ofModel_pack htidy]
    exact UnpackedFloat.noConfusion
  all_goals
    refine (half_le ?_).1
    change x.toModel.unpack.isFinite = true
    rw [hu]
    rfl

end ChartLayer
