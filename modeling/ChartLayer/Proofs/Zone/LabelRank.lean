import ChartLayer.Proofs.Sorted
import ChartLayer.Zone.Basic
import Mathlib

/-!
# The rank of a cluster's label

Labels are placed by rank, and the rank of a mask is the place of its highest bit, counted from one:
it is at most `k` just if the mask fits into `k` bits (`rankOfMask_le_iff`). So the rank of a union
is the greater of two ranks, and a cluster, whose mask is the union of its members' bits, has the
rank of its coarsest member. The bit of a timeframe is that of the coarsest listed one that is not
longer (`le_bitIndex_iff`), and so the rank grows with the length.

* `rankOfMask_or`: the rank of a union.
* `rankOfMask_bit_mono`: the rank of a longer timeframe.
* `rank_of_coarsest`: the rank of some timeframes together.
-/

namespace ChartLayer

/-! ## Masks -/

theorem rankOfMask_le_iff {mask k : Nat} : rankOfMask mask ≤ k ↔ mask < 2 ^ k := by
  unfold rankOfMask
  split
  · next h => exact iff_of_true (Nat.zero_le k) (h ▸ Nat.two_pow_pos k)
  · next h => rw [Nat.succ_le_iff, Nat.log2_lt h]

/-- A union is as coarse as the coarser part. -/
theorem rankOfMask_or (a b : Nat) :
    rankOfMask (a ||| b) = max (rankOfMask a) (rankOfMask b) := by
  have hunion := rankOfMask_le_iff.mp (Nat.le_refl (rankOfMask (a ||| b)))
  apply Nat.le_antisymm
  · exact rankOfMask_le_iff.mpr (Nat.or_lt_two_pow
      (rankOfMask_le_iff.mp (Nat.le_max_left _ _)) (rankOfMask_le_iff.mp (Nat.le_max_right _ _)))
  · exact Nat.max_le.mpr
      ⟨rankOfMask_le_iff.mpr (Nat.lt_of_le_of_lt Nat.left_le_or hunion),
        rankOfMask_le_iff.mpr (Nat.lt_of_le_of_lt Nat.right_le_or hunion)⟩

/-- In a word of thirty-two bits the rank is what the leading zeros leave. -/
theorem rankOfMask_eq_sub_clz {mask : Nat} (h : mask < 2 ^ 32) :
    rankOfMask mask = 32 - (BitVec.ofNat 32 mask).clz.toNat := by
  have hword : (BitVec.ofNat 32 mask).toNat = mask := by
    rw [BitVec.toNat_ofNat, Nat.mod_eq_of_lt h]
  have hlt := BitVec.toNat_lt_two_pow_sub_clz (x := BitVec.ofNat 32 mask)
  rw [hword] at hlt
  refine Nat.le_antisymm (rankOfMask_le_iff.mpr hlt) ?_
  by_cases hzero : mask = 0
  · subst hzero
    decide
  · have hne : BitVec.ofNat 32 mask ≠ 0#32 := by
      intro heq
      rw [heq] at hword
      exact hzero hword.symm
    have hle := BitVec.two_pow_sub_clz_le_toNat_of_ne_zero (by decide) hne
    rw [hword] at hle
    have hrank := rankOfMask_le_iff.mp (Nat.le_refl (rankOfMask mask))
    have hexp := (Nat.pow_lt_pow_iff_right (by decide)).mp (Nat.lt_of_le_of_lt hle hrank)
    omega

namespace Timeframe

/-! ## One timeframe -/

/-- A timeframe is at least as long as the first few listed ones, up to its place. -/
theorem le_bitIndex_iff (tf : Timeframe) {i : Nat} (hi : i < listed.length) :
    i ≤ tf.bitIndex ↔ listed[i].2 ≤ tf.secs := by
  let p := fun entry : String × Time => decide (entry.2 ≤ tf.secs)
  have hascending : listed.Pairwise fun a b => a.2 ≤ b.2 := by decide
  have hfirst : listed.Pairwise fun a b => p b = true → p a = true := by
    refine hascending.imp fun hab hb => ?_
    rw [decide_eq_true_eq] at hb ⊢
    exact Int64.le_trans hab hb
  have hshortest : p listed[0] = true :=
    decide_eq_true (Int64.le_iff_toInt_le.mpr tf.toInt_secs_pos)
  have hpos : 0 < listed.countP p := (Sorted.lt_countP_iff hfirst (by decide)).mpr hshortest
  have hcount : i < listed.countP p ↔ listed[i].2 ≤ tf.secs :=
    (Sorted.lt_countP_iff hfirst hi).trans decide_eq_true_iff
  have hindex : tf.bitIndex = listed.countP p - 1 := rfl
  rw [← hcount]
  omega

theorem bitIndex_lt (tf : Timeframe) : tf.bitIndex < listed.length := by
  have hle := List.countP_le_length (p := fun entry : String × Time => entry.2 ≤ tf.secs) (l := listed)
  have hlength : listed.length = 13 := rfl
  rw [bitIndex]
  omega

/-- A longer timeframe has no lower place. -/
theorem bitIndex_mono {a b : Timeframe} (h : a.secs ≤ b.secs) : a.bitIndex ≤ b.bitIndex := by
  have hlt := a.bitIndex_lt
  have hplace : listed[a.bitIndex].2 ≤ a.secs := (a.le_bitIndex_iff hlt).mp (Nat.le_refl _)
  exact (b.le_bitIndex_iff hlt).mpr (Int64.le_trans hplace h)

theorem rankOfMask_bit (tf : Timeframe) : rankOfMask tf.bit = tf.bitIndex + 1 := by
  rw [bit, Nat.one_shiftLeft, rankOfMask, if_neg (Nat.ne_of_gt (Nat.two_pow_pos _)), Nat.log2_two_pow]

theorem rankOfMask_bit_mono {a b : Timeframe} (h : a.secs ≤ b.secs) :
    rankOfMask a.bit ≤ rankOfMask b.bit := by
  rw [rankOfMask_bit, rankOfMask_bit]
  exact Nat.succ_le_succ (bitIndex_mono h)

/-! ## Timeframes together -/

/-- The mask of some timeframes: the union of their bits. -/
def maskOf (timeframes : List Timeframe) : Nat :=
  timeframes.foldl (fun mask tf => mask ||| tf.bit) 0

/-- Bits that are added one by one raise the rank to the highest of theirs. -/
theorem rankOfMask_foldl (timeframes : List Timeframe) (mask : Nat) :
    rankOfMask (timeframes.foldl (fun mask tf => mask ||| tf.bit) mask) =
      (timeframes.map fun tf => rankOfMask tf.bit).foldl max (rankOfMask mask) := by
  induction timeframes generalizing mask with
  | nil => rfl
  | cons tf rest ih => rw [List.foldl_cons, ih, rankOfMask_or, List.map_cons, List.foldl_cons]

theorem max?_rank {timeframes : List Timeframe} (hne : timeframes ≠ []) :
    (timeframes.map fun tf => rankOfMask tf.bit).max? = some (rankOfMask (maskOf timeframes)) := by
  obtain ⟨tf, rest, rfl⟩ := List.exists_cons_of_ne_nil hne
  rw [maskOf, List.foldl_cons, Nat.zero_or, rankOfMask_foldl, List.map_cons, List.max?_cons']

/-- A mask has no more bits than there are listed timeframes. -/
theorem maskOf_lt (timeframes : List Timeframe) : maskOf timeframes < 2 ^ listed.length := by
  rw [maskOf]
  refine List.foldlRecOn (motive := fun mask => mask < 2 ^ listed.length) timeframes _
    (Nat.two_pow_pos _) fun mask hmask tf _ => ?_
  refine Nat.or_lt_two_pow hmask (rankOfMask_le_iff.mp ?_)
  rw [rankOfMask_bit]
  exact tf.bitIndex_lt

theorem mask_eq_maskOf (c : ZoneCluster) : c.mask = maskOf (c.members.map Zone.timeframe) := by
  rw [ZoneCluster.mask, maskOf, List.foldl_map]

/-- **The rank of the coarsest.** Together some timeframes rank as high as the highest of them, and
that is how a cluster with members of these timeframes ranks. In a word of thirty-two bits it is
what the leading zeros leave. A longer timeframe ranks no lower: the bit of each is that of the
coarsest listed one that is not longer. -/
theorem rank_of_coarsest {timeframes : List Timeframe} (hne : timeframes ≠ []) :
    (timeframes.map fun tf => rankOfMask tf.bit).max? = some (rankOfMask (maskOf timeframes)) ∧
    (∀ c : ZoneCluster, c.members.map Zone.timeframe = timeframes → c.mask = maskOf timeframes) ∧
    rankOfMask (maskOf timeframes) = 32 - (BitVec.ofNat 32 (maskOf timeframes)).clz.toNat ∧
    (∀ a b : Timeframe, a.secs ≤ b.secs → rankOfMask a.bit ≤ rankOfMask b.bit) ∧
    ∀ (tf : Timeframe) (i : Nat) (hi : i < listed.length),
      i ≤ tf.bitIndex ↔ listed[i].2 ≤ tf.secs := by
  have hword : maskOf timeframes < 2 ^ 32 :=
    Nat.lt_of_lt_of_le (maskOf_lt timeframes) (by decide)
  refine ⟨max?_rank hne, ?_, rankOfMask_eq_sub_clz hword, fun _ _ => rankOfMask_bit_mono,
    fun tf _ => tf.le_bitIndex_iff⟩
  rintro c rfl
  exact mask_eq_maskOf c

/-- Seven minutes and a second less than a day, which are not listed, around a day. -/
def threeTimeframes : List Timeframe :=
  [⟨420, by decide⟩, ⟨86400, by decide⟩, ⟨86399, by decide⟩]

theorem rank_of_threeTimeframes :
    threeTimeframes ≠ [] ∧ rankOfMask (maskOf threeTimeframes) = 12 ∧
      (threeTimeframes.map fun tf => rankOfMask tf.bit).max? = some 12 := by
  have hne : threeTimeframes ≠ [] := by decide
  have hrank : rankOfMask (maskOf threeTimeframes) = 12 := by decide
  exact ⟨hne, hrank, hrank ▸ (rank_of_coarsest hne).1⟩

end Timeframe

end ChartLayer
