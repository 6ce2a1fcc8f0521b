import ChartLayer.Label
import ChartLayer.Proofs.Number.Exact
import Mathlib.Order.Bounds.Basic
import Mathlib.Tactic.Linarith

/-!
# Free places for labels

The places taken are kept from the top down, each at least the gap below the one before. A label
that does not fit where it belongs is pushed down from one place taken to the next, and never looks
back. In exact arithmetic that one pass finds the least pixel that is free, and the place found goes
into the list where it keeps the gaps.

* `isLeast_pushDown`: the pass ends at the least free pixel.
* `lt_iff_bisect`: halving finds where the places above it end.
* `spaced_insertPlace`: a place that is free is added, and the gaps stay.
-/

namespace ChartLayer.Labels

open ExactQuantity (value)
open Quantity (isFinite)

/-- The pixels from `start` down that keep the distance `gap` from all places taken. -/
def Free (gap start : ℝ) (taken : List ℝ) : Set ℝ := {y | start ≤ y ∧ ∀ p ∈ taken, gap ≤ |y - p|}

/-- From the top down, with gaps. -/
def Spaced (gap : ℝ) (places : List ℝ) : Prop := places.Pairwise fun p q => p + gap ≤ q

/-! ## Pushing down -/

/-- **One place.** What is too near to the first place is pushed below it; what is not and lies
above it lies above all the others as well. -/
theorem isLeast_free_cons {gap start p y : ℝ} {rest : List ℝ} (hpos : 0 < gap)
    (hspaced : ∀ q ∈ rest, p + gap ≤ q)
    (h : IsLeast (Free gap (if |start - p| < gap then p + gap else start) rest) y) :
    IsLeast (Free gap start (p :: rest)) y := by
  split at h <;> rename_i hdistance <;> obtain ⟨⟨hy, hfree⟩, hleast⟩ := h
  · obtain ⟨habove, hbelow⟩ := abs_lt.mp hdistance
    refine ⟨⟨by linarith, List.forall_mem_cons.mpr ⟨?_, hfree⟩⟩, ?_⟩
    · exact le_abs.mpr (Or.inl (by linarith))
    · rintro v ⟨hv, hfar⟩
      obtain ⟨hfirst, hrest⟩ := List.forall_mem_cons.mp hfar
      refine hleast ⟨?_, hrest⟩
      rcases le_abs.mp hfirst with hunder | hover <;> linarith
  · rw [not_lt] at hdistance
    -- if `start` lies above the first place, it is free as it is and is not pushed past that place
    refine ⟨⟨hy, List.forall_mem_cons.mpr ⟨?_, hfree⟩⟩, ?_⟩
    · rcases le_abs.mp hdistance with hunder | hover
      · exact le_abs.mpr (Or.inl (by linarith))
      · have hstart : start ∈ Free gap start rest := by
          refine ⟨le_rfl, fun q hq => le_abs.mpr (Or.inr ?_)⟩
          linarith [hspaced q hq]
        have hle : y ≤ start := hleast hstart
        exact le_abs.mpr (Or.inr (by linarith))
    · rintro v ⟨hv, hfar⟩
      exact hleast ⟨hv, (List.forall_mem_cons.mp hfar).2⟩

variable {α : Type} [ExactQuantity α] {gap y : α} {taken : List α}

/-- **The pass.** It ends at the least pixel that is free. -/
theorem isLeast_pushDown (hgap : isFinite gap = true) (hpos : 0 < value gap)
    (hfinite : ∀ p ∈ taken, isFinite p = true) (hspaced : Spaced (value gap) (taken.map value))
    (hy : isFinite y = true) :
    isFinite (pushDown gap taken y) = true ∧
      IsLeast (Free (value gap) (value y) (taken.map value)) (value (pushDown gap taken y)) := by
  induction taken generalizing y with
  | nil => exact ⟨hy, ⟨le_refl (value y), fun p hp => nomatch hp⟩, fun v hv => hv.1⟩
  | cons p rest ih =>
    obtain ⟨hp, hrest⟩ := List.forall_mem_cons.mp hfinite
    rw [List.map_cons] at hspaced ⊢
    obtain ⟨hbelow, hspaced⟩ := List.pairwise_cons.mp hspaced
    obtain ⟨hsub, hdifference⟩ := ExactQuantity.sub_exact hy hp
    obtain ⟨habs, hdistance⟩ := ExactQuantity.abs_exact hsub
    have hnear : Quantity.abs (y - p) < gap ↔ |value y - value p| < value gap := by
      rw [← hdifference, ← hdistance]
      exact ExactQuantity.lt_exact habs hgap
    obtain ⟨hnext, hvalue⟩ : Quantity.Is value
        (if Quantity.abs (y - p) < gap then p + gap else y)
        (if |value y - value p| < value gap then value p + value gap else value y) := by
      by_cases h : Quantity.abs (y - p) < gap
      · rw [if_pos h, if_pos (hnear.mp h)]
        exact ExactQuantity.add_exact hp hgap
      · rw [if_neg h, if_neg (mt hnear.mpr h)]
        exact ⟨hy, rfl⟩
    obtain ⟨hend, hleast⟩ := ih hrest hspaced hnext
    rw [hvalue] at hleast
    exact ⟨hend, isLeast_free_cons hpos hbelow hleast⟩

/-! ## Finding the place in the list -/

/-- **Halving.** If the places above `y` come first, it finds how many there are. -/
theorem lt_iff_bisect {taken : Array α}
    (hfirst : ∀ i j : Nat, i ≤ j → taken[j]?.any (· < y) = true → taken[i]?.any (· < y) = true)
    {fuel size base : Nat} (hfuel : size ≤ fuel)
    (habove : ∀ i < base, taken[i]?.any (· < y) = true)
    (hbelow : ∀ i, base + size ≤ i → ¬taken[i]?.any (· < y) = true) (i : Nat) :
    taken[i]?.any (· < y) = true ↔ i < bisect taken y fuel size base := by
  -- all before the stretch lie above `y`, none behind it does, and half of it is left each time
  induction fuel generalizing size base with
  | zero =>
    rw [bisect]
    exact ⟨fun h => not_le.mp fun hi => hbelow i (by omega) h, habove i⟩
  | succ fuel ih =>
    rw [bisect]
    by_cases hsize : size ≤ 1
    · rw [if_pos hsize]
      split <;> rename_i hbase
      · exact ⟨fun h => not_le.mp fun hi => hbelow i (by omega) h,
          fun hi => hfirst i base (by omega) hbase⟩
      · exact ⟨fun h => not_le.mp fun hi => hbase (hfirst base i hi h), habove i⟩
    · rw [if_neg hsize]
      dsimp only
      split <;> rename_i hmiddle
      · exact ih (by omega) (fun j hj => hfirst j _ (by omega) hmiddle)
          (fun j hj => hbelow j (by omega))
      · exact ih (by omega) habove (fun j hj h => hmiddle (hfirst _ j (by omega) h))

theorem any_lt_iff (hfinite : ∀ p ∈ taken, isFinite p = true) (hy : isFinite y = true) (i : Nat) :
    taken.toArray[i]?.any (· < y) = true ↔ ∃ p, taken[i]? = some p ∧ value p < value y := by
  rw [List.getElem?_toArray, Option.any_eq_true]
  refine exists_congr fun p => and_congr_right fun hp => ?_
  rw [decide_eq_true_iff]
  exact ExactQuantity.lt_exact (hfinite p (List.mem_of_getElem? hp)) hy

/-- Among places with gaps, those above `y` do come first. -/
theorem above_iff_lt_bisect (hpos : 0 < value gap) (hfinite : ∀ p ∈ taken, isFinite p = true)
    (hspaced : Spaced (value gap) (taken.map value)) (hy : isFinite y = true) (i : Nat) :
    (∃ p, taken[i]? = some p ∧ value p < value y) ↔
      i < bisect taken.toArray y (taken.length + 1) taken.length 0 := by
  rw [← any_lt_iff hfinite hy]
  refine lt_iff_bisect (fun i j hij h => ?_) (by omega) (fun j hj => absurd hj j.not_lt_zero)
    (fun j hj h => ?_) i
  · obtain ⟨q, hq, hlt⟩ := (any_lt_iff hfinite hy j).mp h
    obtain ⟨hj, rfl⟩ := List.getElem?_eq_some_iff.mp hq
    refine (any_lt_iff hfinite hy i).mpr ⟨taken[i], List.getElem?_eq_getElem (by omega), ?_⟩
    rcases hij.eq_or_lt with rfl | hij
    · exact hlt
    · have hgap := List.pairwise_iff_getElem.mp (List.pairwise_map.mp hspaced) i j (by omega) hj hij
      linarith
  · obtain ⟨p, hp, -⟩ := (any_lt_iff hfinite hy j).mp h
    have := (List.getElem?_eq_some_iff.mp hp).1
    omega

/-- The list is cut where the places above `y` end. -/
theorem exists_cut (hpos : 0 < value gap) (hfinite : ∀ p ∈ taken, isFinite p = true)
    (hspaced : Spaced (value gap) (taken.map value)) (hy : isFinite y = true) :
    ∃ above below, taken = above ++ below ∧ insertPlace taken y = above ++ y :: below ∧
      (∀ p ∈ above, value p < value y) ∧ ∀ p ∈ below, value y ≤ value p := by
  have hcut := above_iff_lt_bisect hpos hfinite hspaced hy
  refine ⟨taken.take _, taken.drop _, (List.take_append_drop _ taken).symm, rfl,
    fun p hp => ?_, fun p hp => ?_⟩
  · obtain ⟨i, hi, rfl⟩ := List.mem_take_iff_getElem.mp hp
    obtain ⟨q, hq, hlt⟩ := (hcut i).mpr (by omega)
    obtain ⟨_, rfl⟩ := List.getElem?_eq_some_iff.mp hq
    exact hlt
  · obtain ⟨i, hi, rfl⟩ := List.mem_drop_iff_getElem.mp hp
    refine not_lt.mp fun hlt => ?_
    have := (hcut _).mp ⟨_, List.getElem?_eq_getElem (by omega), hlt⟩
    omega

/-- **A place that is free.** It lies between its neighbours with the gaps kept. -/
theorem spaced_insertPlace {start : ℝ} (hpos : 0 < value gap)
    (hfinite : ∀ p ∈ taken, isFinite p = true)
    (hspaced : Spaced (value gap) (taken.map value)) (hy : isFinite y = true)
    (hfree : value y ∈ Free (value gap) start (taken.map value)) :
    Spaced (value gap) ((insertPlace taken y).map value) := by
  obtain ⟨above, below, rfl, hinsert, habove, hbelow⟩ := exists_cut hpos hfinite hspaced hy
  have hfar := List.forall_mem_map.mp hfree.2
  rw [hinsert]
  unfold Spaced at hspaced ⊢
  rw [List.pairwise_map, List.pairwise_append] at hspaced ⊢
  obtain ⟨hover, hunder, hacross⟩ := hspaced
  have hfit : ∀ p ∈ above, value p + value gap ≤ value y := fun p hp => by
    rcases le_abs.mp (hfar p (List.mem_append_left _ hp)) with h | h <;> linarith [habove p hp]
  refine ⟨hover, List.pairwise_cons.mpr ⟨fun q hq => ?_, hunder⟩, fun p hp =>
    List.forall_mem_cons.mpr ⟨hfit p hp, hacross p hp⟩⟩
  rcases le_abs.mp (hfar q (List.mem_append_right _ hq)) with h | h <;> linarith [hbelow q hq]

end ChartLayer.Labels
