import ChartLayer.Proofs.IssueLog
import ChartLayer.Proofs.Layer.Drawn

/-!
# What becomes of a delivery

Of the pools, levels or sessions that a host delivers, some cannot be drawn, and of those with one
identity only the last is. What is dropped of pools and levels is reported, so the drawings of the
family and the issues together are as many as were delivered. Sessions are an exception: one that
comes again takes the place of the one before without a report.

* `length_delivery`: what is kept of a list and what is dropped.
* `accounted_setPools`, `accounted_setLevels`, `accounted_setSessions`: one delivery.
* `deliveries_accounted`: all of them, in every state of a layer.
-/

namespace ChartLayer

/-- How many drawings of a family the surface has. -/
def MemorySurface.countOf (family : DrawingFamily) (s : MemorySurface) : Nat :=
  s.drawings.countP fun p => p.key.family = family

theorem MemorySurface.Shows.countOf {β : Type} {family : DrawingFamily} {key : β → String}
    {drawing : β → Drawing} {items : List β} {s : MemorySurface}
    (h : s.Shows family key drawing items) : s.countOf family = items.length := by
  have hlength := h.identities.length_eq
  rw [List.length_map, List.length_map] at hlength
  rw [← hlength]
  exact List.countP_eq_length_filter

/-- What is delivered is the last of its identity, or superseded, or cannot be drawn. -/
theorem length_delivery {β : Type} (drawable : β → Bool) (key : β → String) (items : List β) :
    (lastOfEach key (items.filter drawable)).length +
        ((items.filter fun x => !drawable x).length +
          (supersededOf key (items.filter drawable)).length) = items.length := by
  have hlast := length_lastOfEach_add key (items.filter drawable)
  have hsplit := List.length_eq_length_filter_add drawable (l := items)
  omega

namespace Layer

/-! ## The log -/

section Log

variable {σ : Type} [Surface σ] (l : Layer σ)

@[simp] theorem log_scheduleLabels : l.scheduleLabels.log = l.log := by
  unfold scheduleLabels
  dsimp only
  unfold askFrameIf
  split <;> rfl

@[simp] theorem log_keepingTimes (change : Layer σ → Layer σ) :
    (keepingTimes change l).log = (change l).log := by
  unfold keepingTimes restoreTimes
  split
  · rfl
  · split <;> rfl

end Log

/-! ## One delivery -/

variable {m : Marks} {l l' : Layer MemorySurface}

/-- Of `count` items of a family that were delivered between two states each is drawn, or is the
subject of one of the issues, which are what was reported, or is one of so many that are neither. -/
structure Accounted (family : DrawingFamily) (count : Nat) (issues : List Issue) (neither : Nat)
    (l l' : Layer MemorySurface) : Prop where
  reported : l'.log = l.log.reportAll (issues.map Issue.kind) l.clock
  complete : l'.surface.countOf family + issues.length + neither = count

theorem accounted_setPools (h : InLine m l) (pools : List Pool) :
    Accounted .pool pools.length (poolIssues pools) 0 l (l.setPools pools) where
  reported := by
    unfold setPools
    rw [log_keepingTimes]
    exact log_scheduleLabels _
  complete := by
    have hline := h.setPools pools
    have hkept : (l.setPools pools).pools = lastOfEach Pool.id (pools.filter Pool.isFinite) :=
      congrArg Content.pools (content_performLive l (.setPools pools))
    have hcount := length_delivery Pool.isFinite Pool.id pools
    rw [(hline.pools.shows hline.mirrored).countOf, hkept, poolIssues, List.length_append,
      List.length_map, List.length_map]
    exact hcount

theorem accounted_setLevels (h : InLine m l) (levels : List Level) (timeframe : Option Timeframe)
    (tickSize : Float) :
    Accounted .level levels.length (levelIssues levels) 0 l
      (l.setLevels levels timeframe tickSize) where
  reported := by
    unfold setLevels
    rw [log_keepingTimes]
    rfl
  complete := by
    have hline := h.setLevels levels timeframe tickSize
    have hcount := length_delivery (fun v => v.price.isFinite) Level.id levels
    -- putting levels on their ticks leaves their ids alone
    have hprepared : (m.after l (.setLevels levels timeframe tickSize)).levels =
        (lastOfEach Level.id (finiteLevels levels)).map (preparedLevel timeframe tickSize) :=
      lastOfEach_map (preparedLevel timeframe tickSize) (fun _ => rfl) _
    rw [(hline.levels.shows hline.mirrored).countOf, hprepared, List.length_map, levelIssues,
      List.length_append, List.length_map, List.length_map]
    exact hcount

theorem accounted_setSessions (h : InLine m l) (sessions : List Session) :
    Accounted .session sessions.length (sessionIssues sessions)
      (supersededOf Session.identity (sessions.filter Session.lasts)).length l
      (l.setSessions sessions) where
  reported := by
    unfold setSessions
    rw [log_keepingTimes]
    rfl
  complete := by
    have hline := h.setSessions sessions
    have hcount := length_delivery Session.lasts Session.identity sessions
    rw [(hline.sessions.shows hline.mirrored).countOf, sessionIssues, List.length_map, Nat.add_assoc]
    exact hcount

/-- **Deliveries.** Before the end of a layer each pool and each level that is delivered is drawn or
reported. So is each session, unless it has a successor in the same list; and all are just if no
two sessions that last have one identity. After its end the layer refuses them all. -/
theorem deliveries_accounted (h : Reaches m l) :
    (l.disposed = false →
      (∀ pools, Accounted .pool pools.length (poolIssues pools) 0 l (l.step (.setPools pools))) ∧
      (∀ levels timeframe tickSize, Accounted .level levels.length (levelIssues levels) 0 l
        (l.step (.setLevels levels timeframe tickSize))) ∧
      ∀ sessions,
        Accounted .session sessions.length (sessionIssues sessions)
          (supersededOf Session.identity (sessions.filter Session.lasts)).length l
          (l.step (.setSessions sessions)) ∧
        (Accounted .session sessions.length (sessionIssues sessions) 0 l
            (l.step (.setSessions sessions)) ↔
          ((sessions.filter Session.lasts).map Session.identity).Nodup)) ∧
    (l.disposed = true → ∀ pools levels timeframe tickSize sessions,
      l.perform (.setPools pools) = (.refused .disposed, l) ∧
      l.perform (.setLevels levels timeframe tickSize) = (.refused .disposed, l) ∧
      l.perform (.setSessions sessions) = (.refused .disposed, l)) := by
  constructor
  · intro hlive
    have hline := h.inLine hlive
    simp only [step_of_live hlive]
    refine ⟨accounted_setPools hline, accounted_setLevels hline, fun sessions => ?_⟩
    have hall := accounted_setSessions hline sessions
    refine ⟨hall, ?_⟩
    rw [← supersededOf_eq_nil_iff, ← List.length_eq_zero_iff]
    constructor
    · intro hnone
      exact Nat.add_left_cancel (hall.complete.trans hnone.complete.symm)
    · intro hnone
      rw [hnone] at hall
      exact hall
  · intro hdisposed pools levels timeframe tickSize sessions
    simp only [perform, hdisposed, if_true]
    exact ⟨rfl, rfl, rfl⟩

/-! ## Items that come again -/

theorem reaches_untouched : Reaches {} untouched := .create rfl create?_untouched

/-- One pool delivered twice, and one with an edge that is no number. -/
def repeatedPools : List Pool :=
  [⟨"p", quarterHour, 102.0, 101.0, .active, "eqh", .buySide⟩,
    ⟨"q", quarterHour, 0.0 / 0.0, 101.0, .active, "eqh", .buySide⟩,
    ⟨"p", quarterHour, 103.0, 101.0, .swept, "eqh", .buySide⟩]

theorem deliveries_accounted_of_repeated_pools :
    Reaches {} untouched ∧ untouched.disposed = false ∧
      (untouched.step (.setPools repeatedPools)).surface.countOf .pool = 1 ∧
      Accounted .pool 3 [.poolNotFinite "q", .poolRepeated "p"] 0 untouched
        (untouched.step (.setPools repeatedPools)) := by
  have hissues : poolIssues repeatedPools = [.poolNotFinite "q", .poolRepeated "p"] := by
    decide +kernel
  have hpools := ((deliveries_accounted reaches_untouched).1 rfl).1 repeatedPools
  rw [hissues] at hpools
  exact ⟨reaches_untouched, rfl, by decide +kernel, hpools⟩

/-- One session, delivered three times with different ends. -/
def repeatedSessions : List Session :=
  [⟨0, 3600, "asia"⟩, ⟨0, 3600, "asia"⟩, ⟨0, 7200, "asia"⟩]

/-- Only the last one is drawn, and nothing at all is reported: the log is as it would be after no
list of issues but the empty one. -/
theorem sessions_replaced_unreported :
    Reaches {} untouched ∧ untouched.disposed = false ∧
      (untouched.step (.setSessions repeatedSessions)).surface.countOf .session = 1 ∧
      ∀ issues, ¬Accounted .session repeatedSessions.length issues 0 untouched
        (untouched.step (.setSessions repeatedSessions)) := by
  have hcount : (untouched.step (.setSessions repeatedSessions)).surface.countOf .session = 1 := by
    decide +kernel
  refine ⟨reaches_untouched, rfl, hcount, fun issues haccounted => ?_⟩
  have hlog : (untouched.step (.setSessions repeatedSessions)).log = untouched.log :=
    (accounted_setSessions (reaches_untouched.inLine rfl) repeatedSessions).reported
  have hcomplete := haccounted.complete
  have hlength : repeatedSessions.length = 3 := rfl
  rw [hcount, hlength] at hcomplete
  cases issues with
  | nil => simp at hcomplete
  | cons first rest =>
    have htrace := IssueLog.mem_emitted_reportAll_cons first.kind untouched.clock untouched.log
      (rest.map Issue.kind)
    rw [← List.map_cons, ← haccounted.reported, hlog] at htrace
    simp [untouched] at htrace

end Layer

end ChartLayer
