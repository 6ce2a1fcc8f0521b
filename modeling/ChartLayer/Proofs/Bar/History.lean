import ChartLayer.Proofs.Bar.Series
import ChartLayer.Proofs.Sorted

/-!
# The last bar of each time

A history may give a time several times, in any order and with bars among them that are not finite.
Sorting by time leaves the bars of one time in the order in which they came (`filter_sortedFinite`),
so that of the sorted bars those are kept that came last (`filter_lastPerTime`). What is not kept is
reported (`length_issues_add`).

* `givenAt?`: the bar that a history gives for a time.
* `history_keeps_last`: the series after a history, time by time.
-/

namespace ChartLayer.BarSeries

/-- The bar that a history gives for a time: of the finite bars of that time the last to come. -/
def givenAt? (bars : List Bar) (t : Time) : Option Bar :=
  (bars.filter fun b => b.isFinite && b.time = t).getLast?

/-- **Sorting.** The bars of one time stay in the order in which they came. -/
theorem filter_sortedFinite (bars : List Bar) (t : Time) :
    (sortedFinite bars).filter (fun b => b.time = t) =
      bars.filter fun b => b.isFinite && b.time = t := by
  have htied : ∀ a b : Bar, decide (a.time = t) = true → decide (b.time = t) = true →
      decide (a.time ≤ b.time) = true := by
    simp only [decide_eq_true_eq]
    rintro a b rfl hb
    rw [hb]
    exact Int64.le_refl _
  unfold sortedFinite
  rw [Sorted.filter_mergeSort_of_tied timeOrder_trans timeOrder_total htied, List.filter_filter]
  exact List.filter_congr fun b _ => Bool.and_comm _ _

/-- **Thinning out.** Of ordered bars the last one of each time is kept. -/
theorem filter_lastPerTime {bars : List Bar} (h : bars.Pairwise fun a b => a.time ≤ b.time)
    (t : Time) : (lastPerTime bars).filter (fun b => b.time = t) =
      (bars.filter fun b => b.time = t).getLast?.toList := by
  fun_induction lastPerTime bars with
  | case1 => rfl
  | case2 b => by_cases hb : b.time = t <;> simp [hb]
  | case3 b c rest heq ih =>
    -- `b` is left out, and it is not the last of its time
    rw [ih h.of_cons]
    by_cases hc : c.time = t <;> simp [heq, hc]
  | case4 b c rest hne ih =>
    obtain ⟨hb, hrest⟩ := List.pairwise_cons.mp h
    specialize ih hrest
    by_cases ht : b.time = t
    · -- all bars behind `b` are later
      have hnone : (c :: rest).filter (fun x => x.time = t) = [] := by
        rw [List.filter_eq_nil_iff]
        intro x hx
        have hbc : b.time < c.time := Int64.lt_of_le_of_ne (hb c List.mem_cons_self) hne
        have hcx : c.time ≤ x.time := by
          rcases List.mem_cons.mp hx with rfl | hx
          · exact Int64.le_refl _
          · exact (List.pairwise_cons.mp hrest).1 x hx
        rw [decide_eq_true_eq, ← ht]
        exact (Int64.ne_of_lt (Int64.lt_of_lt_of_le hbc hcx)).symm
      rw [hnone] at ih
      rw [List.filter_cons_of_pos (by simpa using ht), List.filter_cons_of_pos (by simpa using ht),
        ih, hnone]
      rfl
    · rw [List.filter_cons_of_neg (by simpa using ht), List.filter_cons_of_neg (by simpa using ht),
        ih]

theorem length_lastPerTime_add (bars : List Bar) :
    (lastPerTime bars).length + (repeatedTimes bars).length = bars.length := by
  fun_induction lastPerTime bars with
  | case1 | case2 => rfl
  | case3 b c rest heq ih =>
    rw [repeatedTimes, if_pos heq, List.length_cons, List.length_cons, ← ih]
    omega
  | case4 b c rest hne ih =>
    rw [repeatedTimes, if_neg hne, List.length_cons, List.length_cons, ← ih]
    omega

/-- Each bar of a history is kept or reported. -/
theorem length_issues_add (s : BarSeries) (bars : List Bar) :
    (s.setBars bars).1.issues.length + (s.setBars bars).2.bars.length = bars.length := by
  have hfinite : (sortedFinite bars).length = (bars.filter Bar.isFinite).length :=
    (List.mergeSort_perm _ _).length_eq
  have hkept := length_lastPerTime_add (sortedFinite bars)
  have hsplit := bars.length_eq_length_filter_add Bar.isFinite
  simp only [setBars, List.length_append, List.length_map]
  omega

/-- **The last bar of each time.** A series, whatever it held, holds after a history the bars that
the history gives, in order of time: for each time the last finite bar of that time to come, and
none if there is none. What it held before has no part in this, nor in what is reported, and there
are as many reports as bars that were not kept. -/
theorem history_keeps_last (s : BarSeries) (bars : List Bar) :
    let kept := (s.setBars bars).2.bars
    Chronological kept ∧
      (∀ t : Time, kept.filter (fun b => b.time = t) = (givenAt? bars t).toList) ∧
      (∀ other : BarSeries, (other.setBars bars).2.bars = kept ∧
        (other.setBars bars).1.issues = (s.setBars bars).1.issues) ∧
      kept.length ≤ bars.length ∧
      (s.setBars bars).1.issues.length = bars.length - kept.length := by
  intro kept
  have hlength : (s.setBars bars).1.issues.length + kept.length = bars.length :=
    length_issues_add s bars
  refine ⟨?_, fun t => ?_, fun other => ⟨rfl, rfl⟩, by omega, by omega⟩
  · exact chronological_lastPerTime (sortedFinite_pairwise bars)
  · unfold givenAt?
    rw [← filter_sortedFinite]
    exact filter_lastPerTime (sortedFinite_pairwise bars) t

end ChartLayer.BarSeries
