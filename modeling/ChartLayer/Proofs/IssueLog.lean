import ChartLayer.IssueLog

/-!
# Calls leave a trace

A call is let out unless its kind is held back, and it touches what is known of its own kind only. A
kind that is reported is from then on one that has gone out, whether the report itself was held back
or not, and later reports change nothing about that. So a log that knows nothing of a kind has never
been told of it.

* `emitted_report`, `heldBackCount_report`, and the same for `shouldEmit`: one call.
* `mem_emitted_reportAll_cons`: several reports.
-/

namespace ChartLayer.IssueLog

variable (kind : IssueKind) (now : Nat) (log : IssueLog)

/-! ## One call -/

theorem shouldEmit_fst : (log.shouldEmit kind now).1 = !log.holdsBack kind now := by
  unfold shouldEmit
  cases log.holdsBack kind now <;> rfl

theorem interval_shouldEmit : (log.shouldEmit kind now).2.interval = log.interval := by
  unfold shouldEmit
  split <;> rfl

theorem emitted_shouldEmit : (log.shouldEmit kind now).2.emitted =
    if log.holdsBack kind now = true then log.emitted else log.emitted.insert kind now := by
  unfold shouldEmit
  cases log.holdsBack kind now <;> rfl

/-- What is held back is counted, and what goes out leaves the count as it is. -/
theorem heldBackCount_shouldEmit (other : IssueKind) :
    (log.shouldEmit kind now).2.heldBackCount other =
      log.heldBackCount other + (log.holdsBack kind now && decide (kind = other)).toNat := by
  unfold shouldEmit
  cases log.holdsBack kind now with
  | false => rfl
  | true =>
    by_cases hkind : kind = other
    · subst hkind
      simp [heldBackCount]
    · simp [heldBackCount, Std.ExtTreeMap.getD_insert, hkind]

theorem report_fst : (log.report kind now).1 = !log.holdsBack kind now :=
  shouldEmit_fst kind now log

theorem interval_report : (log.report kind now).2.interval = log.interval := by
  refine Eq.trans ?_ (interval_shouldEmit kind now log)
  unfold report
  dsimp only
  split <;> rfl

theorem emitted_report : (log.report kind now).2.emitted =
    if log.holdsBack kind now = true then log.emitted else log.emitted.insert kind now := by
  rw [← emitted_shouldEmit]
  unfold report
  dsimp only
  split <;> rfl

/-- A kind that goes out went out last now, and nothing else is known of other kinds. -/
theorem getElem?_emitted_report (other : IssueKind) :
    (log.report kind now).2.emitted[other]? =
      (if (!log.holdsBack kind now && decide (kind = other)) = true then some now else none).or
        log.emitted[other]? := by
  rw [emitted_report]
  cases log.holdsBack kind now with
  | true => rfl
  | false => by_cases hkind : kind = other <;> simp [Std.ExtTreeMap.getElem?_insert, hkind]

/-- What is held back is counted, and what goes out starts the count anew. -/
theorem heldBackCount_report (other : IssueKind) :
    (log.report kind now).2.heldBackCount other =
      if (!log.holdsBack kind now && decide (kind = other)) = true then 0
      else log.heldBackCount other + (log.holdsBack kind now && decide (kind = other)).toNat := by
  rw [← heldBackCount_shouldEmit, ← shouldEmit_fst]
  unfold report
  dsimp only
  cases (log.shouldEmit kind now).1 with
  | false => rfl
  | true =>
    by_cases hkind : kind = other
    · subst hkind
      simp [heldBackCount]
    · simp [heldBackCount, Std.ExtTreeMap.getD_erase, hkind]

/-! ## Reports leave a trace -/

/-- A kind that is reported goes out now, or has gone out before. -/
theorem mem_emitted_report : kind ∈ (log.report kind now).2.emitted := by
  rw [emitted_report]
  split
  · rename_i hheld
    rw [← Std.ExtTreeMap.isSome_getElem?_iff_mem]
    unfold holdsBack at hheld
    cases hlast : log.emitted[kind]? with
    | none =>
      rw [hlast] at hheld
      cases hheld
    | some last => rfl
  · exact Std.ExtTreeMap.mem_insert_self

theorem mem_emitted_report_of_mem {other : IssueKind} (h : other ∈ log.emitted) :
    other ∈ (log.report kind now).2.emitted := by
  rw [emitted_report]
  split
  · exact h
  · exact Std.ExtTreeMap.mem_insert.mpr (Or.inr h)

theorem mem_emitted_reportAll_of_mem (kinds : List IssueKind) (h : kind ∈ log.emitted) :
    kind ∈ (log.reportAll kinds now).emitted := by
  induction kinds generalizing log with
  | nil => exact h
  | cons first rest ih => exact ih _ (mem_emitted_report_of_mem first now log h)

theorem mem_emitted_reportAll_cons (rest : List IssueKind) :
    kind ∈ (log.reportAll (kind :: rest) now).emitted :=
  mem_emitted_reportAll_of_mem kind now _ rest (mem_emitted_report kind now log)

end ChartLayer.IssueLog
