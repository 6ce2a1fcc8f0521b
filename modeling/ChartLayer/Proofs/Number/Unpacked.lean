import ChartLayer.Proofs.Number.Rounding

/-!
# Unpacked doubles

What `Float` computes with are unpacked doubles: sign, digits and exponent. Packing one into 64 bits
and unpacking it again leaves it alone, unless it lies beyond the greatest double (`settle`).
Between those that come from a bit pattern the order, the sum, the difference and the half are
described by their place, that is in units.

* `unpack_pack`: what is read back.
* `compare_eq`: the order is that of the units.
* `isRounded_add`, `isRounded_sub`: the exact sum and difference, rounded once.
* `half_bounds`: how far a half can be from the exact one.
-/

namespace ChartLayer.Binary64

open Float.Model (UnpackedFloat Format)
open Float.Model.UnpackedFloat

/-! ## Reading back what was written -/

/-- What is kept of a number: one beyond the greatest double becomes an infinity. -/
def settle : UnpackedFloat → UnpackedFloat
  | .finite s m e h => if 971 < e then .infinity s else .finite s m e h
  | x => x

theorem unpack_packedInfinity (s : Sign) :
    unpack .binary64 (packedInfinity .binary64 s) = .infinity s := by
  simp [unpack, packedInfinity]

/-- With a one in front of the fraction. -/
theorem unpack_normal (s : Sign) {m b : Nat} (hm : 2 ^ 52 ≤ m) (hm' : m < 2 ^ 53)
    (hb : 0 < b) (hb' : b < 2047) (h : 0 < m) :
    unpack .binary64 (packComponents .binary64 s (BitVec.ofNat _ b)
      (BitVec.ofNat _ m)) = .finite s m (b - 1075) h := by
  have htop : BitVec.ofNat 11 b ≠ -1#11 := by
    intro h0
    have := congrArg BitVec.toNat h0
    simp at this; omega
  have hbot : BitVec.ofNat 11 b ≠ 0#11 := by
    intro h0
    have := congrArg BitVec.toNat h0
    simp at this; omega
  have hdigits : (1#1 ++ BitVec.ofNat 52 m).toNat = m := by
    rw [BitVec.toNat_append, BitVec.toNat_ofNat, BitVec.toNat_ofNat, Nat.shiftLeft_eq,
      Nat.mul_comm, ← Nat.two_pow_add_eq_or_of_lt (Nat.mod_lt _ (by decide))]
    omega
  have hexp : (BitVec.ofNat 11 b).toNat = b := by
    rw [BitVec.toNat_ofNat]; omega
  simp only [unpack, unpackExponent_packComponents,
    unpackMantissa_packComponents, unpackSign_packComponents, Sign.ofBitVec_toBitVec,
    if_neg htop, if_neg hbot, hexp, UnpackedFloat.finite.injEq]
  refine ⟨trivial, hdigits, rfl⟩

/-- Without the one, at the least exponent. -/
theorem unpack_subnormal (s : Sign) {m : Nat} (hm : m < 2 ^ 52) (h : 0 < m) :
    unpack .binary64 (packComponents .binary64 s 0 (BitVec.ofNat _ m)) =
      .finite s m (-1074) h := by
  have hfrac : (BitVec.ofNat 52 m).toNat = m := by
    rw [BitVec.toNat_ofNat]; omega
  have hz : BitVec.ofNat 52 m ≠ 0#52 := by
    intro h0
    have := congrArg BitVec.toNat h0
    rw [hfrac] at this
    simp at this; omega
  simp only [unpack, unpackExponent_packComponents,
    unpackMantissa_packComponents, unpackSign_packComponents, Sign.ofBitVec_toBitVec]
  rw [if_neg (by decide), if_pos (show (0 : BitVec 11) = 0#11 from rfl), dif_neg hz]
  simp only [hfrac, UnpackedFloat.finite.injEq]
  exact ⟨trivial, trivial, rfl⟩

theorem unpack_pack {x : UnpackedFloat} (hx : Tidy x) :
    unpack .binary64 (pack .binary64 x) = settle x := by
  match x with
  | .notANumber => exact unpack_packedNaN
  | .infinity s => exact unpack_packedInfinity s
  | .zero s => exact unpack_packedZero
  | .finite s m e h =>
    obtain ⟨hm, he, hfull⟩ := hx
    have hbias : (e + Format.binary64.exponentBias +
        Format.binary64.mantissaBitsWithoutImplicit).toNat = (e + 1075).toNat := by
      rw [show Format.binary64.exponentBias = 1023 from rfl]; simp only; omega
    simp only [settle, pack, hbias]
    by_cases hbig : 971 < e
    · rw [if_pos hbig, if_pos (by omega), unpack_packedInfinity]
    · rw [if_neg hbig, if_neg (by omega)]
      by_cases hnormal : 2 ^ 52 ≤ m
      · have hlog : m.log2 + 1 = Format.binary64.mantissaBits := by
          have := (Nat.log2_eq_iff h.ne' (k := 52)).mpr ⟨hnormal, hm⟩
          rw [this]; rfl
        rw [if_pos hlog, unpack_normal s hnormal hm (by omega) (by omega) h]
        congr 1
        omega
      · have hlog : m.log2 + 1 ≠ Format.binary64.mantissaBits := by
          have := (Nat.log2_lt h.ne').mpr (Nat.lt_of_not_le hnormal)
          rw [show Format.binary64.mantissaBits = 53 from rfl]
          omega
        obtain rfl : e = -1074 := by omega
        rw [if_neg hlog]
        exact unpack_subnormal s (Nat.lt_of_not_le hnormal) h

/-! ## The form of a double -/

/-- The form of what a bit pattern stands for. -/
def IsDouble : UnpackedFloat → Prop
  | .finite s m e h => Tidy (.finite s m e h) ∧ e ≤ 971
  | _ => True

theorem isDouble_unpack (b : BitVec Format.binary64.numBits) :
    IsDouble (unpack .binary64 b) := by
  simp only [unpack]
  have hm : (unpackMantissa b).toNat < 2 ^ 52 := (unpackMantissa b).isLt
  have he : (unpackExponent b).toNat < 2 ^ 11 := (unpackExponent b).isLt
  split
  · split <;> trivial
  · next htop =>
    have hbias : (Format.binary64.exponentBias : Int) = 1023 := rfl
    split
    · next hbot =>
      split
      · trivial
      · rw [hbot]
        exact ⟨⟨by omega, by decide, Or.inr (by decide)⟩, by decide⟩
    · next hbot =>
      have htop' : (unpackExponent b).toNat ≠ 2047 :=
        fun h => htop (BitVec.eq_of_toNat_eq h)
      have hbot' : (unpackExponent b).toNat ≠ 0 :=
        fun h => hbot (BitVec.eq_of_toNat_eq h)
      have hdigits : (1#1 ++ unpackMantissa b).toNat = 2 ^ 52 + (unpackMantissa b).toNat := by
        rw [BitVec.toNat_append, Nat.shiftLeft_eq, Nat.mul_comm,
          ← Nat.two_pow_add_eq_or_of_lt hm]
        rfl
      refine ⟨⟨?_, ?_, Or.inl ?_⟩, ?_⟩ <;> simp only [hdigits, hbias] <;> omega

/-! ## Order -/

theorem mul_two_pow_le {m k l : Nat} (hm : m < 2 ^ 53) (hk : k ≤ l) :
    m * 2 ^ k + 2 ^ l ≤ 2 ^ 53 * 2 ^ l := by
  have hle : 2 ^ k ≤ 2 ^ l := Nat.pow_le_pow_right (by decide) hk
  calc m * 2 ^ k + 2 ^ l
      ≤ m * 2 ^ l + 2 ^ l := Nat.add_le_add_right (Nat.mul_le_mul_left m hle) _
    _ = (m + 1) * 2 ^ l := (Nat.succ_mul m _).symm
    _ ≤ 2 ^ 53 * 2 ^ l := Nat.mul_le_mul_right _ hm

/-- A finite double stays a whole step below the limit. -/
theorem magnitude_le {m : Nat} {e : Int} (hm : m < 2 ^ 53) (he : e ≤ 971) :
    m * 2 ^ (e + 1074).toNat + 2 * halfStep ≤ limit := by
  have hstep : 2 * halfStep = 2 ^ 2045 := by rw [halfStep, ← pow_succ']
  have htop : limit = 2 ^ 53 * 2 ^ 2045 := by rw [limit, ← Nat.pow_add]
  rw [htop, hstep]
  exact mul_two_pow_le hm (by omega)

theorem magnitude_lt {m : Nat} {e : Int} (hm : m < 2 ^ 53) (he : e ≤ 971) :
    m * 2 ^ (e + 1074).toNat < limit := by
  have hstep := halfStep_pos
  have hle := magnitude_le hm he
  omega

/-- What is kept as an infinity has reached it. -/
theorem limit_le_magnitude {s : Sign} {m : Nat} {e : Int} {h : 0 < m}
    (hx : Tidy (.finite s m e h)) (he : 971 < e) : limit ≤ m * 2 ^ (e + 1074).toNat := by
  have htop : limit = 2 ^ 52 * 2 ^ 2046 := by rw [limit, ← Nat.pow_add]
  obtain ⟨-, -, hfull⟩ := hx
  have hp : ∀ l, l ≤ (e + 1074).toNat → 2 ^ l ≤ 2 ^ (e + 1074).toNat :=
    fun l hl => Nat.pow_le_pow_right (by decide) hl
  rw [htop]
  exact Nat.mul_le_mul (by omega) (hp 2046 (by omega))

/-- Of two doubles above zero the one with the greater exponent is the greater. -/
theorem magnitude_lt_of_exponent {m n : Nat} {e f : Int} (hm : m < 2 ^ 53) (he : -1074 ≤ e)
    (hf : 2 ^ 52 ≤ n ∨ f = -1074) (hlt : e < f) :
    m * 2 ^ (e + 1074).toNat < n * 2 ^ (f + 1074).toNat := by
  obtain hn | hf := hf
  · have hp : 2 ^ ((e + 1074).toNat + 1) ≤ 2 ^ (f + 1074).toNat :=
      Nat.pow_le_pow_right (by decide) (by omega)
    calc m * 2 ^ (e + 1074).toNat
        < 2 ^ 53 * 2 ^ (e + 1074).toNat := Nat.mul_lt_mul_of_pos_right hm (Nat.two_pow_pos _)
      _ = 2 ^ 52 * 2 ^ ((e + 1074).toNat + 1) := by ring
      _ ≤ n * 2 ^ (f + 1074).toNat := Nat.mul_le_mul hn hp
  · omega

/-- Exponent first, digits second: that is the order of the numbers. -/
theorem compare_magnitude {m n : Nat} {e f : Int} {s₁ s₂ : Sign} {h₁ : 0 < m} {h₂ : 0 < n}
    (hx : IsDouble (.finite s₁ m e h₁)) (hy : IsDouble (.finite s₂ n f h₂)) :
    (compare e f).then (compare m n) =
      compare (m * 2 ^ (e + 1074).toNat) (n * 2 ^ (f + 1074).toNat) := by
  obtain ⟨⟨hm, he, hfull⟩, -⟩ := hx
  obtain ⟨⟨hn, hf, hfull'⟩, -⟩ := hy
  rcases lt_trichotomy e f with hlt | rfl | hgt
  · rw [compare_lt_iff_lt.mpr hlt,
      compare_lt_iff_lt.mpr (magnitude_lt_of_exponent hm he hfull' hlt)]
    rfl
  · have hpos := Nat.two_pow_pos (e + 1074).toNat
    rw [compare_eq_iff_eq.mpr rfl, Ordering.then]
    rcases lt_trichotomy m n with hlt | rfl | hgt
    · rw [compare_lt_iff_lt.mpr hlt,
        compare_lt_iff_lt.mpr (Nat.mul_lt_mul_of_pos_right hlt hpos)]
    · rw [compare_eq_iff_eq.mpr rfl, compare_eq_iff_eq.mpr rfl]
    · rw [compare_gt_iff_gt.mpr hgt,
        compare_gt_iff_gt.mpr (Nat.mul_lt_mul_of_pos_right hgt hpos)]
  · rw [compare_gt_iff_gt.mpr hgt,
      compare_gt_iff_gt.mpr (magnitude_lt_of_exponent hn hf hfull hgt)]
    rfl

theorem lt_eq_compare {a b : Int} (h : a < b) : some Ordering.lt = some (compare a b) := by
  rw [compare_lt_iff_lt.mpr h]

theorem gt_eq_compare {a b : Int} (h : b < a) : some Ordering.gt = some (compare a b) := by
  rw [compare_gt_iff_gt.mpr h]

theorem eq_eq_compare {a b : Int} (h : a = b) : some Ordering.eq = some (compare a b) := by
  rw [compare_eq_iff_eq.mpr h]

theorem compare_cast (a b : Nat) : compare (a : Int) (b : Int) = compare a b := by
  rcases lt_trichotomy a b with h | h | h
  · rw [compare_lt_iff_lt.mpr h, compare_lt_iff_lt.mpr (Int.ofNat_lt.mpr h)]
  · rw [h, compare_eq_iff_eq.mpr rfl, compare_eq_iff_eq.mpr rfl]
  · rw [compare_gt_iff_gt.mpr h, compare_gt_iff_gt.mpr (Int.ofNat_lt.mpr h)]

theorem compare_neg_cast (a b : Nat) : compare (-a : Int) (-b) = (compare a b).swap := by
  rcases lt_trichotomy a b with h | h | h
  · rw [compare_lt_iff_lt.mpr h, compare_gt_iff_gt.mpr (show (-b : Int) < -a by omega)]; rfl
  · rw [h, compare_eq_iff_eq.mpr rfl, compare_eq_iff_eq.mpr rfl]; rfl
  · rw [compare_gt_iff_gt.mpr h, compare_lt_iff_lt.mpr (show (-a : Int) < -b by omega)]; rfl

/-- The order of doubles is the order of their units. -/
theorem compare_eq {x y : UnpackedFloat} (hx : IsDouble x) (hy : IsDouble y)
    (hx' : x ≠ .notANumber) (hy' : y ≠ .notANumber) :
    UnpackedFloat.compare x y = some (compare (place x) (place y)) := by
  have hlim := limit_pos
  rcases x with s | _ | s | ⟨s, m, e, hm⟩
  case notANumber => exact absurd rfl hx'
  all_goals rcases y with t | _ | t | ⟨t, n, f, hn⟩
  case infinity.notANumber | zero.notANumber | finite.notANumber => exact absurd rfl hy'
  case infinity.infinity =>
    cases s <;> cases t <;> simp only [UnpackedFloat.compare, place, Sign.apply] <;>
      first | exact lt_eq_compare (by omega) | exact gt_eq_compare (by omega) | exact eq_eq_compare rfl
  case infinity.zero =>
    cases s <;> simp only [UnpackedFloat.compare, place, Sign.apply] <;>
      first | exact lt_eq_compare (by omega) | exact gt_eq_compare (by omega)
  case zero.infinity =>
    cases t <;> simp only [UnpackedFloat.compare, place, Sign.apply] <;>
      first | exact lt_eq_compare (by omega) | exact gt_eq_compare (by omega)
  case zero.zero => exact eq_eq_compare rfl
  case infinity.finite =>
    have hlt := magnitude_lt hy.1.1 hy.2
    cases s <;> cases t <;> simp only [UnpackedFloat.compare, place, Sign.apply] <;>
      first | exact lt_eq_compare (by omega) | exact gt_eq_compare (by omega)
  case finite.infinity =>
    have hlt := magnitude_lt hx.1.1 hx.2
    cases s <;> cases t <;> simp only [UnpackedFloat.compare, place, Sign.apply] <;>
      first | exact lt_eq_compare (by omega) | exact gt_eq_compare (by omega)
  case zero.finite =>
    have hpos := Nat.mul_pos hn (Nat.two_pow_pos (f + 1074).toNat)
    cases t <;> simp only [UnpackedFloat.compare, place, Sign.apply] <;>
      first | exact lt_eq_compare (by omega) | exact gt_eq_compare (by omega)
  case finite.zero =>
    have hpos := Nat.mul_pos hm (Nat.two_pow_pos (e + 1074).toNat)
    cases s <;> simp only [UnpackedFloat.compare, place, Sign.apply] <;>
      first | exact lt_eq_compare (by omega) | exact gt_eq_compare (by omega)
  case finite.finite =>
    have hpos := Nat.mul_pos hm (Nat.two_pow_pos (e + 1074).toNat)
    have hpos' := Nat.mul_pos hn (Nat.two_pow_pos (f + 1074).toNat)
    have hmag := compare_magnitude hx hy
    cases s <;> cases t <;> simp only [UnpackedFloat.compare, place, Sign.apply, hmag]
    case negative.positive => exact lt_eq_compare (by omega)
    case positive.negative => exact gt_eq_compare (by omega)
    case negative.negative => rw [compare_neg_cast]
    case positive.positive => rw [compare_cast]

/-! ## Arithmetic -/

theorem natAbs_apply (s : Sign) (n : Int) : (s.apply n).natAbs = n.natAbs := by
  cases s
  · exact Int.natAbs_neg n
  · rfl

/-- Keeping a number holds it between the limits. -/
theorem place_settle : ∀ {x : UnpackedFloat}, Tidy x →
    place (settle x) = max (-(limit : Int)) (min limit (place x))
  | .finite s m e h, hx => by
    have hpos := limit_pos
    rw [settle]
    by_cases hbig : 971 < e
    · have hlim : limit ≤ m * 2 ^ (e + 1074).toNat := limit_le_magnitude hx hbig
      rw [if_pos hbig]
      cases s <;> simp only [place, Sign.apply] <;> omega
    · have hlim : m * 2 ^ (e + 1074).toNat < limit := magnitude_lt hx.1 (by omega)
      rw [if_neg hbig]
      cases s <;> simp only [place, Sign.apply] <;> omega
  | .notANumber, _ | .zero _, _ => by
    have hpos := limit_pos
    simp only [settle, place]
    omega
  | .infinity s, _ => by
    have hpos := limit_pos
    cases s <;> simp only [settle, place, Sign.apply] <;> omega

theorem settle_ne_notANumber : ∀ {x : UnpackedFloat}, x ≠ .notANumber → settle x ≠ .notANumber
  | .finite s m e h, _ => by
    rw [settle]
    split <;> exact UnpackedFloat.noConfusion
  | .notANumber, hn => absurd rfl hn
  | .infinity _, hn | .zero _, hn => hn

/-- Keeping a number leaves its sign and takes it no farther from zero. -/
theorem settle_bounds {x : UnpackedFloat} (hx : Tidy x) (hn : x ≠ .notANumber) :
    settle x ≠ .notANumber ∧ (0 ≤ place x → 0 ≤ place (settle x)) ∧
      (place x ≤ 0 → place (settle x) ≤ 0) ∧ (place (settle x)).natAbs ≤ (place x).natAbs := by
  have hpos := limit_pos
  rw [place_settle hx]
  exact ⟨settle_ne_notANumber hn, by omega, by omega, by omega⟩

/-- What a number of units is rounded to, of either sign. -/
def roundSigned (n : Int) : Int := n.sign * roundUnits n.natAbs

@[simp] theorem roundSigned_natCast (n : Nat) : roundSigned n = roundUnits n := by
  rcases n with _ | n
  · rfl
  · rw [roundSigned, Int.sign_natCast_of_ne_zero n.succ_ne_zero, Int.one_mul, Int.natAbs_natCast]

@[simp] theorem roundSigned_neg (n : Int) : roundSigned (-n) = -roundSigned n := by
  rw [roundSigned, roundSigned, Int.sign_neg, Int.natAbs_neg, Int.neg_mul]

theorem roundSigned_apply (s : Sign) (n : Nat) :
    roundSigned (s.apply n) = s.apply (roundUnits n) := by
  cases s
  · exact (roundSigned_neg n).trans (congrArg _ (roundSigned_natCast n))
  · exact roundSigned_natCast n

theorem natAbs_roundSigned (n : Int) : (roundSigned n).natAbs = roundUnits n.natAbs := by
  obtain ⟨m, rfl | rfl⟩ := n.eq_nat_or_neg <;> simp

theorem roundSigned_mono {m n : Int} (h : m ≤ n) : roundSigned m ≤ roundSigned n := by
  obtain ⟨a, rfl | rfl⟩ := m.eq_nat_or_neg <;> obtain ⟨b, rfl | rfl⟩ := n.eq_nat_or_neg <;>
    simp only [roundSigned_neg, roundSigned_natCast]
  · have hab := roundUnits_mono (show a ≤ b by omega)
    omega
  · obtain ⟨rfl, rfl⟩ : a = 0 ∧ b = 0 := by omega
    decide
  · omega
  · have hba := roundUnits_mono (show b ≤ a by omega)
    omega

/-- Rounding leaves the sign, and takes nothing but zero to zero. -/
theorem roundSigned_nonneg_iff {n : Int} : 0 ≤ roundSigned n ↔ 0 ≤ n := by
  obtain ⟨m, rfl | rfl⟩ := n.eq_nat_or_neg
  · rw [roundSigned_natCast]
    omega
  · have hzero := roundUnits_eq_zero_iff (n := m)
    rw [roundSigned_neg, roundSigned_natCast]
    omega

theorem roundSigned_nonpos_iff {n : Int} : roundSigned n ≤ 0 ↔ n ≤ 0 := by
  have h := roundSigned_nonneg_iff (n := -n)
  rw [roundSigned_neg] at h
  omega

/-- `x` is what `n` units are rounded to. -/
structure IsRounded (n : Int) (x : UnpackedFloat) : Prop where
  tidy : Tidy x
  number : x ≠ .notANumber
  place_eq : place x = roundSigned n

/-- `x` is what `n` units are rounded to, as far as sign and size go. -/
structure Approximates (n : Int) (x : UnpackedFloat) : Prop where
  tidy : Tidy x
  number : x ≠ .notANumber
  nonneg : 0 ≤ n → 0 ≤ place x
  nonpos : n ≤ 0 → place x ≤ 0
  /-- Only what comes within half a step of the limit reaches it. -/
  below : n.natAbs + halfStep < limit → (place x).natAbs < limit

theorem IsRounded.approximates {n : Int} {x : UnpackedFloat} (h : IsRounded n x) :
    Approximates n x where
  tidy := h.tidy
  number := h.number
  nonneg h0 := by rw [h.place_eq]; exact roundSigned_nonneg_iff.mpr h0
  nonpos h0 := by rw [h.place_eq]; exact roundSigned_nonpos_iff.mpr h0
  below hb := by rw [h.place_eq, natAbs_roundSigned]; exact roundUnits_lt_limit hb

/-- A whole number of units, rounded. -/
theorem isRounded_round (s : Sign) {m : Nat} {e : Int} (hm : m ≠ 0) (he : -1074 ≤ e) :
    IsRounded (s.apply (m * 2 ^ (e + 1074).toNat : Nat)) (round .binary64 s m e) := by
  rw [round_eq s hm he rfl]
  generalize m * 2 ^ (e + 1074).toNat = n
  have hr := roundsTo_roundedQuotient n (stepOf n)
  refine ⟨tidy_carry s hr.le (by omega) (by have := hr.full; omega), ?_, ?_⟩
  · rw [ofParts]
    split <;> exact UnpackedFloat.noConfusion
  · rw [place_carry s _ (by omega), roundSigned_apply, Int.sub_add_cancel, Int.toNat_natCast]
    rfl

/-- A whole number of units of either sign, rounded. -/
theorem isRounded_normalize {n : Int} (m : Int) {e : Int} (zero : Sign) (he : -1074 ≤ e)
    (hn : n = m * 2 ^ (e + 1074).toNat) : IsRounded n (normalize .binary64 m e zero) := by
  rw [UnpackedFloat.normalize]
  rcases lt_trichotomy m 0 with h | h | h
  · have hunits : n = Sign.negative.apply ((-m).toNat * 2 ^ (e + 1074).toNat : Nat) := by
      rw [hn, Sign.apply]
      push_cast [Int.toNat_of_nonneg (show 0 ≤ -m by omega)]
      ring
    rw [compare_lt_iff_lt.mpr h, hunits]
    exact isRounded_round .negative (by omega) he
  · have h0 : n = 0 := by rw [hn, h, Int.zero_mul]
    rw [compare_eq_iff_eq.mpr h, h0]
    exact ⟨trivial, UnpackedFloat.noConfusion, rfl⟩
  · have hunits : n = Sign.positive.apply (m.toNat * 2 ^ (e + 1074).toNat : Nat) := by
      rw [hn, Sign.apply]
      push_cast [Int.toNat_of_nonneg (show 0 ≤ m by omega)]
      ring
    rw [compare_gt_iff_gt.mpr h, hunits]
    exact isRounded_round .positive (by omega) he

/-- A double is its own number of units. -/
theorem isRounded_self : ∀ {x : UnpackedFloat}, IsDouble x → x.isFinite = true →
    IsRounded (place x) x
  | .zero _, _, _ => ⟨trivial, UnpackedFloat.noConfusion, rfl⟩
  | .finite s m e h, hx, _ => by
    refine ⟨hx.1, UnpackedFloat.noConfusion, ?_⟩
    rw [place, roundSigned_apply, roundUnits_self hx.1.1]

/-- Digits written at a lower exponent are the same number of units. -/
theorem apply_shiftLeft (s : Sign) (m : Nat) {e t : Int} (ht : -1074 ≤ t) (he : t ≤ e) :
    s.apply (m <<< (e - t).toNat : Nat) * 2 ^ (t + 1074).toNat =
      s.apply (m * 2 ^ (e + 1074).toNat : Nat) := by
  have hsplit : (e + 1074).toNat = (e - t).toNat + (t + 1074).toNat := by omega
  rw [Nat.shiftLeft_eq, hsplit, pow_add]
  cases s <;> simp only [Sign.apply] <;> push_cast <;> ring

/-- The exact sum of two doubles, rounded. -/
theorem isRounded_add {x y : UnpackedFloat} (hx : IsDouble x) (hy : IsDouble y)
    (fx : x.isFinite = true) (fy : y.isFinite = true) :
    IsRounded (place x + place y) (add .binary64 x y) := by
  rcases x with s | _ | s | ⟨s, m, e, hm⟩
  case infinity | notANumber => cases fx
  all_goals rcases y with t | _ | t | ⟨t, n, f, hn⟩
  case zero.infinity | zero.notANumber | finite.infinity | finite.notANumber => cases fy
  case zero.zero =>
    rw [add]
    split <;> exact ⟨trivial, UnpackedFloat.noConfusion, rfl⟩
  case zero.finite =>
    rw [show place (.zero s) + place (.finite t n f hn) = place (.finite t n f hn) from
      Int.zero_add _]
    exact isRounded_self hy rfl
  case finite.zero =>
    rw [show place (.finite s m e hm) + place (.zero t) = place (.finite s m e hm) from
      Int.add_zero _]
    exact isRounded_self hx rfl
  case finite.finite =>
    have he := hx.1.2.1
    have hf := hy.1.2.1
    apply isRounded_normalize _ _ (show -1074 ≤ min e f by omega)
    rw [Int.add_mul, apply_shiftLeft s m (by omega) (Int.min_le_left e f),
      apply_shiftLeft t n (by omega) (Int.min_le_right e f)]
    rfl

theorem apply_neg (s : Sign) (n : Int) : (-s).apply n = -s.apply n := by
  cases s
  · exact (Int.neg_neg n).symm
  · rfl

theorem place_neg : ∀ x : UnpackedFloat, place x.neg = -place x
  | .notANumber | .zero _ => Int.neg_zero.symm
  | .infinity s | .finite s .. => apply_neg s _

theorem isDouble_neg : ∀ {x : UnpackedFloat}, IsDouble x → IsDouble x.neg
  | .finite .., h => h
  | .notANumber, _ | .infinity _, _ | .zero _, _ => trivial

@[simp] theorem isFinite_neg (x : UnpackedFloat) : x.neg.isFinite = x.isFinite := by
  cases x <;> rfl

/-- A difference is a sum. -/
theorem sub_eq_add_neg (x y : UnpackedFloat) : sub .binary64 x y = add .binary64 x y.neg := by
  rcases x with s | _ | s | ⟨s, m, e, hm⟩ <;> rcases y with t | _ | t | ⟨t, n, f, hn⟩
  case finite.finite => simp only [sub, add, UnpackedFloat.neg, apply_neg, Int.sub_eq_add_neg]
  all_goals rfl

/-- The exact difference of two doubles, rounded. -/
theorem isRounded_sub {x y : UnpackedFloat} (hx : IsDouble x) (hy : IsDouble y)
    (fx : x.isFinite = true) (fy : y.isFinite = true) :
    IsRounded (place x - place y) (sub .binary64 x y) := by
  rw [sub_eq_add_neg, Int.sub_eq_add_neg, ← place_neg]
  exact isRounded_add hx (isDouble_neg hy) fx (by rwa [isFinite_neg])

/-! ## Halves -/

/-- Rounding at most doubles a number of units, unless there is less than one. -/
theorem place_roundWithAccuracy_le (s : Sign) (m : Nat) {e t : Int} (acc : Accuracy)
    (ht : Format.binary64.targetExponent (Float.Model.totalExponent m e) = t) (he : -1074 ≤ e)
    (het : e ≤ t) :
    (place (roundWithAccuracy .binary64 s m e acc)).natAbs ≤ 2 * (m * 2 ^ (e + 1074).toNat) + 1 := by
  have hup := (roundedQuotient_bounds m acc (t - e).toNat).2
  rw [roundWithAccuracy_eq s m e acc ht het, place_carry s _ (by omega), natAbs_apply,
    Int.natAbs_natCast]
  rw [targetExponent_eq, Float.Model.totalExponent] at ht
  have hsplit : (t + 1074).toNat = (t - e).toNat + (e + 1074).toNat := by omega
  generalize roundedQuotient m acc (t - e).toNat = r at hup
  have hquot : m / 2 ^ (t - e).toNat * 2 ^ (t - e).toNat ≤ m := Nat.div_mul_le_self _ _
  have hstep := Nat.mul_le_mul_right (2 ^ (e + 1074).toNat) hquot
  rw [Nat.mul_assoc, ← Nat.pow_add, ← hsplit] at hstep
  by_cases hm : m = 0
  · -- Nothing to shift: the exponent is the least one.
    subst hm
    have hlog : (0 : Nat).log2 = 0 := by decide
    rw [hlog] at ht
    rw [Nat.zero_div] at hup
    rw [show (t + 1074).toNat = 0 by omega, Nat.pow_zero]
    omega
  · have hone : 1 ≤ m / 2 ^ (t - e).toNat := by
      rw [Nat.le_div_iff_mul_le (Nat.two_pow_pos _), Nat.one_mul]
      exact (Nat.pow_le_pow_right (by decide) (by omega)).trans (Nat.log2_self_le hm)
    have hr := Nat.mul_le_mul_right (2 ^ (t + 1074).toNat)
      (show r ≤ 2 * (m / 2 ^ (t - e).toNat) by omega)
    rw [Nat.mul_assoc] at hr
    omega

theorem tidy_roundWithAccuracy (s : Sign) (m : Nat) {e t : Int} (acc : Accuracy)
    (ht : Format.binary64.targetExponent (Float.Model.totalExponent m e) = t) (het : e ≤ t) :
    Tidy (roundWithAccuracy .binary64 s m e acc) ∧
      roundWithAccuracy .binary64 s m e acc ≠ .notANumber := by
  have hb := roundedQuotient_bounds m acc (t - e).toNat
  rw [roundWithAccuracy_eq s m e acc ht het]
  rw [targetExponent_eq, Float.Model.totalExponent] at ht
  have hlt := div_lt_of_log2 m (t - e).toNat (by omega)
  generalize roundedQuotient m acc (t - e).toNat = r at hb
  constructor
  · apply tidy_carry s (by omega) (by omega)
    by_cases hlow : t = -1074
    · exact Or.inr hlow
    · have hm : m ≠ 0 := by
        rintro rfl
        rw [show (0 : Nat).log2 = 0 by decide] at ht
        omega
      have := le_div_of_log2 hm (n := (t - e).toNat) (by omega)
      omega
  · rw [ofParts]
    split <;> exact UnpackedFloat.noConfusion

/-- The double two. -/
def two : UnpackedFloat := .finite .positive (2 ^ 52) (-51) (by decide)

theorem half_bounds {x : UnpackedFloat} (hx : IsDouble x) (fx : x.isFinite = true) :
    Tidy (div .binary64 x two) ∧ div .binary64 x two ≠ .notANumber ∧
      (place (div .binary64 x two)).natAbs ≤ (place x).natAbs + 1 := by
  rcases x with s | _ | s | ⟨s, m, e, hm⟩
  case infinity | notANumber => cases fx
  case zero => exact ⟨trivial, UnpackedFloat.noConfusion, Nat.le_succ _⟩
  case finite =>
    obtain ⟨⟨hlt, he, hfull⟩, -⟩ := hx
    have hlog : m.log2 < 53 := (Nat.log2_lt hm.ne').mpr hlt
    -- the exponent of the quotient, and the digits it needs
    obtain ⟨q, hq⟩ : ∃ q : Int, q = max ((m.log2 : Int) + 1 + e - 55) (-1074) := ⟨_, rfl⟩
    have htarget : min (e + 51) (Format.binary64.targetExponent
        (Float.Model.totalExponent m e - Float.Model.totalExponent (2 ^ 52) (-51))) = q := by
      have : (2 ^ 52 : Nat).log2 = 52 := Nat.log2_two_pow
      rw [targetExponent_eq, Float.Model.totalExponent, Float.Model.totalExponent, this]
      omega
    obtain ⟨M, hM⟩ : ∃ M, M = m * 2 ^ (e + 51 - q).toNat / 2 ^ 52 := ⟨_, rfl⟩
    obtain ⟨acc, hdiv⟩ : ∃ acc, div .binary64 (.finite s m e hm) two
        = roundWithAccuracy .binary64 (s / .positive) M q acc := by
      refine ⟨accuracyOfFraction (m * 2 ^ (e + 51 - q).toNat % 2 ^ 52) (2 ^ 52), ?_⟩
      simp only [div, two, divCore, htarget, Nat.shiftLeft_eq, Int.sub_neg, hM]
    have hdigits : q ≤ Format.binary64.targetExponent (Float.Model.totalExponent M q) := by
      rw [targetExponent_eq, Float.Model.totalExponent]
      by_cases hlow : q = -1074
      · omega
      · have hM' : M = m * 2 ^ (53 - m.log2) := by
          rw [hM, show (e + 51 - q).toNat = (53 - m.log2) + 52 by omega, Nat.pow_add,
            ← Nat.mul_assoc, Nat.mul_div_cancel _ (by decide)]
        rw [hM', log2_mul_two_pow hm.ne']
        omega
    obtain ⟨ht, hn⟩ := tidy_roundWithAccuracy (s / .positive) M acc rfl hdigits
    have hle := place_roundWithAccuracy_le (s / .positive) M acc rfl (by omega) hdigits
    rw [hdiv]
    refine ⟨ht, hn, ?_⟩
    have hhalf : M * 2 ^ 52 * 2 ^ (q + 1074).toNat ≤ m * 2 ^ (e + 1074).toNat * 2 ^ 51 := by
      have h1 : M * 2 ^ 52 ≤ m * 2 ^ (e + 51 - q).toNat := by
        rw [hM]; exact Nat.div_mul_le_self _ _
      have h2 : (e + 51 - q).toNat + (q + 1074).toNat = (e + 1074).toNat + 51 := by omega
      calc M * 2 ^ 52 * 2 ^ (q + 1074).toNat
          ≤ m * 2 ^ (e + 51 - q).toNat * 2 ^ (q + 1074).toNat := Nat.mul_le_mul_right _ h1
        _ = m * 2 ^ (e + 1074).toNat * 2 ^ 51 := by
          rw [Nat.mul_assoc, ← Nat.pow_add, h2, Nat.pow_add, Nat.mul_assoc]
    rw [place, natAbs_apply, Int.natAbs_natCast]
    have hcomm : M * 2 ^ 52 * 2 ^ (q + 1074).toNat = M * 2 ^ (q + 1074).toNat * 2 ^ 52 := by ring
    omega

end ChartLayer.Binary64
