import ChartLayer.Issue
import Std.Data.ExtTreeMap

/-!
# The throttled log

One report of a kind goes out in each interval; the reports in between are counted. A clock reading
is a number of milliseconds, and one that is earlier than the last report counts as the same time.
-/

namespace ChartLayer

namespace IssueKind

/-- The place of a kind in the list of kinds. -/
def index : IssueKind → Nat
  | nonFiniteBounds => 0
  | missingIdentity => 1
  | duplicateIdentity => 2
  | missingField => 3
  | badTimestamp => 4
  | unknownTimeframe => 5
  | outOfOrderBar => 6
  | invalidSession => 7

/-- The order of `index`. -/
def order : IssueKind → IssueKind → Ordering := compareOn index

instance : Std.TransCmp order := inferInstanceAs (Std.TransCmp (compareOn index))

instance : Std.LawfulEqCmp order where
  eq_of_compare {a b} h := by
    revert h
    cases a <;> cases b <;> decide

end IssueKind

/-- When each kind was last reported, and how often it was held back since.
mirrors `RateLimitedLog` -/
structure IssueLog where
  interval : Nat
  emitted : Std.ExtTreeMap IssueKind Nat IssueKind.order := ∅
  suppressed : Std.ExtTreeMap IssueKind Nat IssueKind.order := ∅

namespace IssueLog

/-- How often a kind was held back since its last report.
mirrors `RateLimitedLog::suppressed_count` -/
def heldBackCount (kind : IssueKind) (log : IssueLog) : Nat := log.suppressed.getD kind 0

/-- Whether a kind is held back at a time. -/
def holdsBack (kind : IssueKind) (now : Nat) (log : IssueLog) : Bool :=
  log.emitted[kind]?.any fun last => now - last < log.interval

/-- Asks whether a kind may be reported, and takes the answer for granted.
mirrors `RateLimitedLog::should_emit_at` -/
def shouldEmit (kind : IssueKind) (now : Nat) (log : IssueLog) : Bool × IssueLog :=
  if log.holdsBack kind now then
    (false, { log with suppressed := log.suppressed.insert kind (log.heldBackCount kind + 1) })
  else
    (true, { log with emitted := log.emitted.insert kind now })

/-- Reports a kind, or counts it. A report starts the count anew.
mirrors `RateLimitedLog::report_at` -/
def report (kind : IssueKind) (now : Nat) (log : IssueLog) : Bool × IssueLog :=
  let (emits, log) := log.shouldEmit kind now
  (emits, if emits then { log with suppressed := log.suppressed.erase kind } else log)

/-- Reports several kinds at one time. -/
def reportAll (kinds : List IssueKind) (now : Nat) (log : IssueLog) : IssueLog :=
  kinds.foldl (fun log kind => (log.report kind now).2) log

/-- mirrors `RateLimitedLog::reset` -/
def reset (log : IssueLog) : IssueLog := { log with emitted := ∅, suppressed := ∅ }

end IssueLog

end ChartLayer
