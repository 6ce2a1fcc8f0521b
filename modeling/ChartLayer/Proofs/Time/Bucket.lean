import ChartLayer.Time.Timeframe
import Mathlib

/-!
# Buckets

A timeframe divides all integers into buckets, and each integer is in one of them
(`beginsBucket_iff`). Times are the integers of sixty-four bits. The least of them is in the middle
of a bucket, unless the timeframe divides `2 ^ 63`, and then that bucket begins before all times. So
the start of a bucket is right wherever there is one, and the times of the lowest bucket may have
none: computing it overflows. The check for a start never does, and is right for all times.

* `le_bucketFloor_iff`: no multiple lies between a bucket's start and a number in the bucket.
* `bucketStart_eq_ok_iff`, `bucketStart_eq_error_iff`: the two outcomes.
* `bucketStart_exact_iff`: which of them it is, for every time.
* `bucketStart_overflows`: the least time, in a bucket of a minute.
-/

namespace ChartLayer.Timeframe

/-- The bucket that holds `t` begins at `start`. -/
structure BeginsBucket (tf : Timeframe) (t start : Int) : Prop where
  dvd : tf.secs.toInt ∣ start
  le : start ≤ t
  lt : t < start + tf.secs.toInt

/-- Where the bucket that holds `t` begins, among all integers. -/
def bucketFloor (tf : Timeframe) (t : Int) : Int := t - t % tf.secs.toInt

variable (tf : Timeframe)

theorem bucketFloor_eq (t : Int) : tf.bucketFloor t = t / tf.secs.toInt * tf.secs.toInt := by
  have hsplit := Int.ediv_mul_add_emod t tf.secs.toInt
  rw [bucketFloor]
  omega

theorem dvd_bucketFloor (t : Int) : tf.secs.toInt ∣ tf.bucketFloor t := by
  rw [bucketFloor_eq]
  exact Int.dvd_mul_left _ _

theorem bucketFloor_le (t : Int) : tf.bucketFloor t ≤ t := by
  have hrest := Int.emod_nonneg t (Int.ne_of_gt tf.toInt_secs_pos)
  rw [bucketFloor]
  omega

theorem lt_bucketFloor_add (t : Int) : t < tf.bucketFloor t + tf.secs.toInt := by
  have hrest := Int.emod_lt_of_pos t tf.toInt_secs_pos
  rw [bucketFloor]
  omega

variable {tf}

/-- Every integer is in one bucket. -/
theorem beginsBucket_iff {t start : Int} : tf.BeginsBucket t start ↔ start = tf.bucketFloor t := by
  constructor
  · rintro ⟨⟨k, rfl⟩, hle, hlt⟩
    have hrest : t % tf.secs.toInt = t - tf.secs.toInt * k := by
      rw [← Int.sub_mul_emod_self_left t tf.secs.toInt k]
      exact Int.emod_eq_of_lt (by omega) (by omega)
    rw [bucketFloor, hrest]
    omega
  · rintro rfl
    exact ⟨tf.dvd_bucketFloor t, tf.bucketFloor_le t, tf.lt_bucketFloor_add t⟩

/-- Multiples that are not above a number are not above the start of its bucket. -/
theorem le_bucketFloor_iff {t k : Int} (hk : tf.secs.toInt ∣ k) : k ≤ tf.bucketFloor t ↔ k ≤ t := by
  constructor
  · intro h
    exact Int.le_trans h (tf.bucketFloor_le t)
  · intro h
    obtain ⟨q, rfl⟩ := hk
    rw [bucketFloor_eq, Int.mul_comm]
    have hq := (Int.le_ediv_iff_mul_le tf.toInt_secs_pos).mpr ((Int.mul_comm q _).trans_le h)
    exact Int.mul_le_mul_of_nonneg_right hq (Int.le_of_lt tf.toInt_secs_pos)

/-! ## The lowest bucket -/

/-- The least time at which a bucket begins. -/
def firstStart (tf : Timeframe) : Int := -(2 ^ 63 / tf.secs.toInt * tf.secs.toInt)

theorem dvd_firstStart : tf.secs.toInt ∣ tf.firstStart :=
  (Int.dvd_mul_left _ _).neg_right

/-- Multiples are times just from the first start on. -/
theorem minValue_le_iff_firstStart_le {k : Int} (hk : tf.secs.toInt ∣ k) :
    Int64.minValue.toInt ≤ k ↔ tf.firstStart ≤ k := by
  obtain ⟨q, rfl⟩ := hk
  have hpos := tf.toInt_secs_pos
  have hmin : Int64.minValue.toInt = -2 ^ 63 := by decide
  calc Int64.minValue.toInt ≤ tf.secs.toInt * q
    _ ↔ -q * tf.secs.toInt ≤ 2 ^ 63 := by rw [hmin, Int.neg_mul, Int.mul_comm q]; omega
    _ ↔ -q ≤ 2 ^ 63 / tf.secs.toInt := (Int.le_ediv_iff_mul_le hpos).symm
    _ ↔ -q * tf.secs.toInt ≤ 2 ^ 63 / tf.secs.toInt * tf.secs.toInt :=
      (Int.mul_le_mul_iff_of_pos_right hpos).symm
    _ ↔ tf.firstStart ≤ tf.secs.toInt * q := by
      rw [firstStart, Int.neg_mul, Int.mul_comm q]; omega

/-- A bucket begins at a time just if it holds no time before the first start. -/
theorem minValue_le_bucketFloor_iff {t : Int} :
    Int64.minValue.toInt ≤ tf.bucketFloor t ↔ tf.firstStart ≤ t :=
  (minValue_le_iff_firstStart_le (tf.dvd_bucketFloor t)).trans (le_bucketFloor_iff dvd_firstStart)

/-! ## The start computed -/

theorem bucketStart_eq_checked (t : Time) :
    tf.bucketStart t = checked (tf.bucketFloor t.toInt) := by
  rw [bucketStart, bucketFloor_eq, Int.fdiv_eq_ediv_of_nonneg _ (Int.le_of_lt tf.toInt_secs_pos)]

theorem bucketStart_eq_ok_iff {t start : Time} :
    tf.bucketStart t = .ok start ↔ tf.BeginsBucket t.toInt start.toInt := by
  rw [bucketStart_eq_checked, checked_eq_ok_iff, beginsBucket_iff]

/-- Buckets do not begin behind all times, so only the lowest has no start. -/
theorem fits_bucketFloor_iff {t : Time} :
    Fits (tf.bucketFloor t.toInt) ↔ tf.firstStart ≤ t.toInt := by
  rw [← minValue_le_bucketFloor_iff]
  exact and_iff_left (Int.le_trans (tf.bucketFloor_le t.toInt) t.toInt_le)

theorem bucketStart_eq_error_iff {t : Time} {overflow : Overflow} :
    tf.bucketStart t = .error overflow ↔
      overflow.secs = tf.bucketFloor t.toInt ∧ t.toInt < tf.firstStart := by
  rw [bucketStart_eq_checked, checked_eq_error_iff, fits_bucketFloor_iff, Int.not_le]

theorem isAligned_iff {t : Time} : tf.isAligned t = true ↔ tf.bucketFloor t.toInt = t.toInt := by
  rw [isAligned, beq_iff_eq, Int.fmod_eq_emod_of_nonneg _ (Int.le_of_lt tf.toInt_secs_pos),
    bucketFloor]
  omega

/-- **Buckets.** From the first start on, the start computed is the one time at which the bucket
begins. Before it there is none, and the start computed overflows. For all times, the check for a
start holds just if the time is the start of its own bucket. -/
theorem bucketStart_exact_iff (tf : Timeframe) (t : Time) :
    (∀ start, tf.bucketStart t = .ok start ↔ tf.BeginsBucket t.toInt start.toInt) ∧
    ((∃ start, tf.bucketStart t = .ok start) ↔ tf.firstStart ≤ t.toInt) ∧
    (∀ overflow, tf.bucketStart t = .error overflow ↔
      tf.BeginsBucket t.toInt overflow.secs ∧ t.toInt < tf.firstStart) ∧
    (tf.isAligned t = true ↔ tf.bucketStart t = .ok t) := by
  refine ⟨fun _ => bucketStart_eq_ok_iff, ?_, fun overflow => ?_, ?_⟩
  · rw [← fits_bucketFloor_iff, bucketStart_eq_checked]
    simp only [checked_eq_ok_iff]
    constructor
    · rintro ⟨start, hstart⟩
      exact hstart ▸ fits_toInt start
    · intro hfits
      exact ⟨_, hfits.toInt_ofInt⟩
  · rw [bucketStart_eq_error_iff, beginsBucket_iff]
  · rw [isAligned_iff, bucketStart_eq_ok_iff, beginsBucket_iff, eq_comm]

/-- **The lowest minute.** The least time is in the middle of a minute, and that minute begins
before all times. -/
theorem bucketStart_overflows :
    let minute : Timeframe := ⟨60, by decide⟩
    minute.bucketStart Int64.minValue = .error ⟨-9223372036854775860⟩ ∧
      ∀ start : Time, ¬minute.BeginsBucket Int64.minValue.toInt start.toInt := by
  intro minute
  have hstart : minute.bucketStart Int64.minValue = .error ⟨-9223372036854775860⟩ := by rfl
  refine ⟨hstart, fun start h => ?_⟩
  have hbegins := bucketStart_eq_ok_iff.mpr h
  rw [hstart] at hbegins
  cases hbegins

end ChartLayer.Timeframe
