import ChartLayer.Proofs.Zone.Answer

/-!
# Trust in plain integers

Times are sixty-four bits wide, and a bucket may end beyond them. What the check of a zone comes to
is a statement about integers all the same (`isTruthful_iff`): the timeframe divides the origin, and
the bucket from there on ends no later than the history is closed.
-/

namespace ChartLayer

/-- The end of a bucket is a time, or it lies beyond all times. -/
theorem Zone.bucketEnd?_any (z : Zone) (closed : Time) :
    (z.bucketEnd?.any fun stop => stop ≤ closed) = true ↔
      z.originTime.toInt + z.timeframe.secs.toInt ≤ closed.toInt := by
  have hpositive := z.timeframe.toInt_secs_pos
  have hleast := Int64.le_toInt z.originTime
  have hmost := Int64.toInt_lt closed
  have hmax : Int64.maxValue.toInt = 2 ^ 63 - 1 := rfl
  unfold bucketEnd?
  dsimp only
  split
  · rename_i hfits
    have hstop := Int64.toInt_ofInt_of_le (n := z.originTime.toInt + z.timeframe.secs.toInt)
      (by omega) (by omega)
    rw [Option.any_some, decide_eq_true_iff, Int64.le_iff_toInt_le, hstop]
  · rename_i hbeyond
    simp only [Option.any_none, Bool.false_eq_true, false_iff]
    omega

/-- **Truthful zones.** -/
theorem Zone.isTruthful_iff (z : Zone) (closed : Time) :
    z.isTruthful closed = true ↔
      z.timeframe.secs.toInt ∣ z.originTime.toInt ∧
        z.originTime.toInt + z.timeframe.secs.toInt ≤ closed.toInt := by
  unfold isTruthful Timeframe.isAligned
  rw [Bool.and_eq_true, bucketEnd?_any, beq_iff_eq, Int.dvd_iff_fmod_eq_zero]

namespace SelectionRequest

/-- How far the history of a request is closed. -/
def closed? (r : SelectionRequest) : Option Time := closedThrough? r.bars r.shownView?

/-- A zone begins with a bucket of its timeframe, and that bucket is over. -/
def Trusts (r : SelectionRequest) (z : Zone) : Prop :=
  z.timeframe.secs.toInt ∣ z.originTime.toInt ∧
    ∃ closed, r.closed? = some closed ∧
      z.originTime.toInt + z.timeframe.secs.toInt ≤ closed.toInt

theorem trusts_iff {r : SelectionRequest} {z : Zone} :
    r.Trusts z ↔ r.closed?.any z.isTruthful = true := by
  unfold Trusts
  cases r.closed? with
  | none => simp
  | some closed => simp [Zone.isTruthful_iff]

instance (r : SelectionRequest) (z : Zone) : Decidable (r.Trusts z) :=
  decidable_of_iff _ trusts_iff.symm

theorem mem_trusted {r : SelectionRequest} {z : Zone} :
    z ∈ r.trusted ↔ z ∈ r.delivered ∧ r.Trusts z := by
  rw [trusts_iff]
  exact List.mem_filter

end SelectionRequest

end ChartLayer
