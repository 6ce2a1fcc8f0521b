import ChartLayer.Proofs.IssueLog
import Mathlib.Data.List.DropRight

/-!
# One report per interval

What a log answers is written down with what it was asked (`transcript`), and its two tables can be
read off that: when a kind went out last, and how often it was held back since it was reported. A
time earlier than the last emission counts as the same time, so it is held back as well, and the
emissions of a kind move forward by an interval at least, up to the next reset.

* `emitted_serve`, `heldBackCount_serve`: what one request does to either table.
* `LastOut.spaced_transcript`, `heldBackCount_serveAll`: any run.
* `Agree.serveAll`: a run as one kind sees it.
* `throttled_by_kind`: all of it.
-/

namespace ChartLayer.IssueLog

/-! ## What is asked, and what is answered -/

/-- What is asked of a log. -/
inductive Request where
  | report (kind : IssueKind) (now : Nat)
  | ask (kind : IssueKind) (now : Nat)
  | reset
  deriving DecidableEq, Repr

namespace Request

/-- The call is of this kind. -/
def calls (kind : IssueKind) : Request → Bool
  | report k _ | ask k _ => k = kind
  | reset => false

/-- The request makes a difference to this kind. -/
def concerns (kind : IssueKind) (r : Request) : Bool := r == reset || r.calls kind

/-- The time of a call. -/
def time? : Request → Option Nat
  | report _ now | ask _ now => some now
  | reset => none

def isReport : Request → Bool
  | report _ _ => true
  | _ => false

def isReset : Request → Bool
  | reset => true
  | _ => false

end Request

/-- The answer to a request, and the log after it. A reset lets nothing out. -/
def serve (log : IssueLog) : Request → Bool × IssueLog
  | .report kind now => log.report kind now
  | .ask kind now => log.shouldEmit kind now
  | .reset => (false, log.reset)

/-- The log after some requests. -/
def serveAll (log : IssueLog) (requests : List Request) : IssueLog :=
  requests.foldl (fun log r => (log.serve r).2) log

/-- A request, and whether its kind was let out. -/
structure Entry where
  request : Request
  emitted : Bool
  deriving DecidableEq, Repr

/-- A request, written down with its answer. -/
def entry (log : IssueLog) (r : Request) : Entry := ⟨r, (log.serve r).1⟩

/-- Some requests, written down with their answers. -/
def transcript (log : IssueLog) : List Request → List Entry
  | [] => []
  | r :: rest => log.entry r :: (log.serve r).2.transcript rest

namespace Entry

def isReset (e : Entry) : Bool := e.request.isReset

def concerns (kind : IssueKind) (e : Entry) : Bool := e.request.concerns kind

/-- The time at which an entry let out a kind. -/
def emission? (kind : IssueKind) (e : Entry) : Option Nat :=
  if e.emitted && e.request.calls kind then e.request.time? else none

/-- A call of this kind was held back. -/
def heldBack (kind : IssueKind) (e : Entry) : Bool := !e.emitted && e.request.calls kind

/-- From here on the count of a kind starts anew: it went out through a report, or all was reset. -/
def startsAnew (kind : IssueKind) (e : Entry) : Bool :=
  e.isReset || (e.emitted && e.request.isReport && e.request.calls kind)

end Entry

/-- When a kind went out. -/
def emissions (kind : IssueKind) (entries : List Entry) : List Nat :=
  entries.filterMap (Entry.emission? kind)

/-- How many calls of a kind were held back since the count last started anew. -/
def heldBackSince (kind : IssueKind) (entries : List Entry) : Nat :=
  (entries.rtakeWhile fun e => !e.startsAnew kind).countP (Entry.heldBack kind)

theorem heldBackSince_concat (kind : IssueKind) (entries : List Entry) (e : Entry) :
    heldBackSince kind (entries ++ [e]) =
      if e.startsAnew kind = true then 0
      else heldBackSince kind entries + (e.heldBack kind).toNat := by
  unfold heldBackSince
  rw [List.rtakeWhile_concat]
  cases e.startsAnew kind with
  | true => rfl
  | false =>
    rw [if_pos Bool.not_false, List.countP_append, if_neg Bool.false_ne_true]
    cases hheld : e.heldBack kind <;> simp [hheld]

/-! ## One request -/

variable {kind : IssueKind} {log : IssueLog} {r : Request}

theorem interval_serve (log : IssueLog) (r : Request) :
    (log.serve r).2.interval = log.interval := by
  cases r with
  | report k now => exact interval_report k now log
  | ask k now => exact interval_shouldEmit k now log
  | reset => rfl

/-- **The last emission.** A kind that is let out went out last now. -/
theorem emitted_serve (h : r.isReset = false) :
    (log.serve r).2.emitted[kind]? = ((log.entry r).emission? kind).or log.emitted[kind]? := by
  cases r with
  | reset => cases h
  | report k now =>
    rw [entry, serve, report_fst]
    exact getElem?_emitted_report k now log kind
  | ask k now =>
    rw [entry, serve, shouldEmit_fst, emitted_shouldEmit, ← emitted_report]
    exact getElem?_emitted_report k now log kind

/-- **The count.** -/
theorem heldBackCount_serve (log : IssueLog) (r : Request) (kind : IssueKind) :
    (log.serve r).2.heldBackCount kind =
      if (log.entry r).startsAnew kind = true then 0
      else log.heldBackCount kind + ((log.entry r).heldBack kind).toNat := by
  cases r with
  | reset =>
    simp [serve, reset, entry, Entry.startsAnew, Entry.isReset, Request.isReset, heldBackCount]
  | report k now =>
    rw [entry, serve, report_fst, heldBackCount_report]
    simp [Entry.startsAnew, Entry.heldBack, Entry.isReset, Request.isReset, Request.isReport,
      Request.calls]
  | ask k now =>
    rw [entry, serve, shouldEmit_fst, heldBackCount_shouldEmit]
    simp [Entry.startsAnew, Entry.heldBack, Entry.isReset, Request.isReset, Request.isReport,
      Request.calls]

/-- What is let out is not held back: it comes an interval after the last emission. -/
theorem le_of_emission? {now last : Nat} (hinterval : 0 < log.interval)
    (h : (log.entry r).emission? kind = some now) (hlast : log.emitted[kind]? = some last) :
    last + log.interval ≤ now := by
  have hspaced (h : (log.holdsBack kind now) = false) : last + log.interval ≤ now := by
    unfold holdsBack at h
    rw [hlast, Option.any_some, decide_eq_false_iff_not] at h
    omega
  cases r with
  | reset => cases h
  | report k t | ask k t =>
    simp only [entry, serve, report_fst, shouldEmit_fst, Entry.emission?, Request.calls,
      Request.time?, Option.ite_none_right_eq_some, Bool.and_eq_true, Bool.not_eq_true',
      decide_eq_true_eq, Option.some.injEq] at h
    obtain ⟨⟨hheld, rfl⟩, rfl⟩ := h
    exact hspaced hheld

/-! ## Between two resets -/

/-- What a log knows of the last emission of a kind is what the entries since the last reset tell of
it, and by these the kind went out once per interval. -/
structure LastOut (log : IssueLog) (kind : IssueKind) (entries : List Entry) : Prop where
  last : log.emitted[kind]? = (emissions kind entries).getLast?
  spaced : (emissions kind entries).Pairwise fun a b => a + log.interval ≤ b

theorem emissions_concat (kind : IssueKind) (entries : List Entry) (e : Entry) :
    emissions kind (entries ++ [e]) = emissions kind entries ++ (e.emission? kind).toList := by
  unfold emissions
  rw [List.filterMap_append]
  cases h : e.emission? kind <;> simp [h]

variable {entries : List Entry}

/-- The last emission is an interval later than all others. -/
theorem LastOut.le_last (h : LastOut log kind entries) {last : Nat}
    (hlast : log.emitted[kind]? = some last) : ∀ a ∈ emissions kind entries, a ≤ last := by
  obtain ⟨earlier, heq⟩ := List.getLast?_eq_some_iff.mp (h.last.symm.trans hlast)
  have hspaced := h.spaced
  rw [heq] at hspaced ⊢
  obtain ⟨-, -, hlater⟩ := List.pairwise_append.mp hspaced
  intro a ha
  rcases List.mem_append.mp ha with ha | ha
  · have := hlater a ha last (List.mem_singleton.mpr rfl)
    omega
  · exact Nat.le_of_eq (List.mem_singleton.mp ha)

/-- **One request.** -/
theorem LastOut.serve (h : LastOut log kind entries) (hinterval : 0 < log.interval)
    (hr : r.isReset = false) : LastOut (log.serve r).2 kind (entries ++ [log.entry r]) := by
  constructor
  · rw [emitted_serve hr, h.last, emissions_concat, List.getLast?_append]
    cases (log.entry r).emission? kind <;> rfl
  · rw [interval_serve, emissions_concat]
    refine List.pairwise_append.mpr ⟨h.spaced, ?_, fun a ha now hnow => ?_⟩
    · cases (log.entry r).emission? kind <;> simp
    · rw [Option.mem_toList] at hnow
      cases hlast : log.emitted[kind]? with
      | none =>
        rw [List.getLast?_eq_none_iff.mp (h.last.symm.trans hlast)] at ha
        cases ha
      | some last =>
        have hle := h.le_last hlast a ha
        have hspaced := le_of_emission? hinterval hnow hlast
        omega

/-- **Any run.** After a reset no emission is known, and a stretch begins in which there is none. -/
theorem LastOut.spaced_transcript (h : LastOut log kind entries) (hinterval : 0 < log.interval)
    (hentries : ∀ e ∈ entries, e.isReset = false) (requests : List Request) :
    ∀ stretch ∈ (entries ++ log.transcript requests).splitOnP Entry.isReset,
      (emissions kind stretch).Pairwise fun a b => a + log.interval ≤ b := by
  have hone : entries.splitOnP Entry.isReset = [entries] := List.splitOnP_eq_singleton hentries
  induction requests generalizing log entries with
  | nil =>
    rw [transcript, List.append_nil, hone]
    exact fun stretch hstretch => List.mem_singleton.mp hstretch ▸ h.spaced
  | cons r rest ih =>
    cases hr : r.isReset with
    | true =>
      cases r with
      | reset =>
        have hnew : LastOut log.reset kind [] := ⟨Std.ExtTreeMap.getElem?_empty, .nil⟩
        have hrest := ih hnew hinterval (by simp) List.splitOnP_nil
        rw [transcript, List.splitOnP_append_cons _ _ rfl, hone]
        intro stretch hstretch
        rcases List.mem_append.mp hstretch with hstretch | hstretch
        · exact List.mem_singleton.mp hstretch ▸ h.spaced
        · exact hrest stretch hstretch
      | report | ask => cases hr
    | false =>
      have hentries' : ∀ e ∈ entries ++ [log.entry r], e.isReset = false := by
        simpa [or_imp, forall_and] using ⟨hentries, hr⟩
      have hrest := ih (h.serve hinterval hr) (by rwa [interval_serve]) hentries'
        (List.splitOnP_eq_singleton hentries')
      rwa [List.append_assoc, interval_serve] at hrest

/-! ## The count -/

theorem transcript_concat (log : IssueLog) (requests : List Request) (r : Request) :
    log.transcript (requests ++ [r]) =
      log.transcript requests ++ [(log.serveAll requests).entry r] := by
  induction requests generalizing log with
  | nil => rfl
  | cons first rest ih => exact congrArg (_ :: ·) (ih (log.serve first).2)

/-- **The count after any run.** -/
theorem heldBackCount_serveAll (interval : Nat) (requests : List Request) (kind : IssueKind) :
    (({ interval } : IssueLog).serveAll requests).heldBackCount kind =
      heldBackSince kind (({ interval } : IssueLog).transcript requests) := by
  induction requests using List.reverseRecOn with
  | nil => rfl
  | append_singleton requests r ih =>
    rw [transcript_concat, heldBackSince_concat, ← ih, ← heldBackCount_serve]
    unfold serveAll
    rw [List.foldl_concat]

/-! ## One kind among others -/

/-- Two logs know the same of a kind. -/
structure Agree (kind : IssueKind) (log other : IssueLog) : Prop where
  interval : log.interval = other.interval
  last : log.emitted[kind]? = other.emitted[kind]?
  count : log.heldBackCount kind = other.heldBackCount kind

variable {other : IssueLog}

theorem Agree.entry_eq (h : Agree kind log other) (hr : r.concerns kind = true) :
    log.entry r = other.entry r := by
  have hheld (now : Nat) : log.holdsBack kind now = other.holdsBack kind now := by
    unfold holdsBack
    rw [h.interval, h.last]
  cases r with
  | reset => rfl
  | report k now | ask k now =>
    obtain rfl : k = kind := by simpa [Request.concerns, Request.calls] using hr
    simp only [entry, IssueLog.serve, report_fst, shouldEmit_fst, hheld]

/-- **A request of this kind, or a reset.** -/
theorem Agree.serve (h : Agree kind log other) (hr : r.concerns kind = true) :
    Agree kind (log.serve r).2 (other.serve r).2 where
  interval := by rw [interval_serve, interval_serve, h.interval]
  last := by
    cases hreset : r.isReset with
    | false => rw [emitted_serve hreset, emitted_serve hreset, h.entry_eq hr, h.last]
    | true =>
      cases r with
      | reset => rfl
      | report | ask => cases hreset
  count := by rw [heldBackCount_serve, heldBackCount_serve, h.entry_eq hr, h.count]

/-- **A call of another kind.** -/
theorem Agree.serve_other (h : Agree kind log other) (hr : r.concerns kind = false) :
    Agree kind (log.serve r).2 other := by
  cases r with
  | reset => cases hr
  | report k now | ask k now =>
    have hkind : k ≠ kind := by simpa [Request.concerns, Request.calls] using hr
    refine ⟨(interval_serve log _).trans h.interval, ?_, ?_⟩
    · rw [emitted_serve rfl, ← h.last]
      simp [Entry.emission?, entry, Request.calls, hkind]
    · rw [heldBackCount_serve, ← h.count]
      simp [Entry.startsAnew, Entry.heldBack, Entry.isReset, entry, Request.isReset, Request.calls,
        hkind]

/-- **Any run.** One kind is served as if the requests that concern it were all there are. -/
theorem Agree.serveAll (h : Agree kind log other) (requests : List Request) :
    (log.transcript requests).filter (Entry.concerns kind) =
        other.transcript (requests.filter (Request.concerns kind)) ∧
      Agree kind (log.serveAll requests)
        (other.serveAll (requests.filter (Request.concerns kind))) := by
  induction requests generalizing log other with
  | nil => exact ⟨rfl, h⟩
  | cons r rest ih =>
    rw [transcript]
    cases hr : r.concerns kind with
    | true =>
      have hentry : (log.entry r).concerns kind = true := hr
      obtain ⟨hentries, hagree⟩ := ih (h.serve hr)
      rw [List.filter_cons_of_pos hr, List.filter_cons_of_pos hentry, hentries, h.entry_eq hr]
      exact ⟨rfl, hagree⟩
    | false =>
      have hother : ¬r.concerns kind = true := by simpa using hr
      have hentry : ¬(log.entry r).concerns kind = true := hother
      rw [List.filter_cons_of_neg hother, List.filter_cons_of_neg hentry]
      exact ih (h.serve_other hr)

/-! ## The log -/

/-- **One report per interval.** Take any requests to a new log, at any times, and any kind. From
one emission of the kind to a later one, with no reset between them, an interval passes at least, so
that the later one is the later in time. The count is that of the calls of the kind that were held
back since it last went out through a report or the log was reset. And answers and count are what
they are if calls of other kinds are left out. -/
theorem throttled_by_kind {interval : Nat} (hinterval : 0 < interval) (requests : List Request)
    (kind : IssueKind) :
    let log : IssueLog := { interval }
    let entries := log.transcript requests
    let alone := requests.filter (Request.concerns kind)
    (∀ stretch ∈ entries.splitOnP Entry.isReset,
        (emissions kind stretch).Pairwise fun earlier later =>
          earlier + interval ≤ later ∧ earlier < later) ∧
      (log.serveAll requests).heldBackCount kind = heldBackSince kind entries ∧
      entries.filter (Entry.concerns kind) = log.transcript alone ∧
      (log.serveAll requests).heldBackCount kind = (log.serveAll alone).heldBackCount kind := by
  intro log entries alone
  have hnew : LastOut log kind [] := ⟨Std.ExtTreeMap.getElem?_empty, .nil⟩
  have hspaced := hnew.spaced_transcript hinterval (by simp) requests
  have hsame : Agree kind log log := ⟨rfl, rfl, rfl⟩
  obtain ⟨halone, hagree⟩ := hsame.serveAll requests
  refine ⟨fun stretch hstretch => ?_, heldBackCount_serveAll interval requests kind, halone,
    hagree.count⟩
  refine (hspaced stretch hstretch).imp fun {a b} hle => ?_
  change a + interval ≤ b at hle
  omega

/-- A kind that is held back, once at a time before its emission, let out by asking and let out by
reporting, with a call of another kind among these; and then a reset, after which time starts
over. -/
def mixedCalls : List Request :=
  [.report .nonFiniteBounds 1000, .report .nonFiniteBounds 5000, .ask .nonFiniteBounds 500,
    .report .duplicateIdentity 5000, .ask .nonFiniteBounds 6000, .report .nonFiniteBounds 6500,
    .report .nonFiniteBounds 11000, .reset, .report .nonFiniteBounds 0,
    .ask .nonFiniteBounds 4999]

theorem throttled_of_mixed :
    let log : IssueLog := { interval := 5000 }
    let entries := log.transcript mixedCalls
    let alone := mixedCalls.filter (Request.concerns .nonFiniteBounds)
    0 < 5000 ∧
      (entries.splitOnP Entry.isReset).map (emissions .nonFiniteBounds) =
        [[1000, 6000, 11000], [0]] ∧
      (log.serveAll (mixedCalls.take 6)).heldBackCount .nonFiniteBounds = 3 ∧
      (log.serveAll (mixedCalls.take 7)).heldBackCount .nonFiniteBounds = 0 ∧
      (log.serveAll mixedCalls).heldBackCount .nonFiniteBounds =
        heldBackSince .nonFiniteBounds entries ∧
      heldBackSince .nonFiniteBounds entries = 1 ∧ alone.length = 9 ∧
      entries.filter (Entry.concerns .nonFiniteBounds) = log.transcript alone := by
  intro log entries alone
  have hinterval : 0 < 5000 := by decide
  obtain ⟨-, hcount, halone, -⟩ := throttled_by_kind hinterval mixedCalls .nonFiniteBounds
  exact ⟨hinterval, by decide +kernel, by decide +kernel, by decide +kernel, hcount,
    by decide +kernel, by decide +kernel, halone⟩

end ChartLayer.IssueLog
