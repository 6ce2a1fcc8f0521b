import ChartLayer.Proofs.Zone.Answer

/-!
# What was shown is not moved

Zones and bands that have been shown stay where they are for as long as their identity is
delivered, whatever the deliveries say about it and whether or not it is shown in between.

The invariant is what the selector keeps. An answer shows only geometry that it keeps
(`kept_of_shown_zone`, `kept_of_shown_cluster`), it lets go of no identity that is delivered
(`answer_keeps_zone`, `answer_keeps_cluster`), and so does a run of answers (`answers_keep`). Hence
two answers of a run show the same geometry (`same_geometry_throughout`).
-/

namespace ChartLayer.Selector

open Freezing (ofZones ofClusters)

variable {s : Selector} {r : SelectionRequest}

/-! ## One answer -/

/-- A zone is shown where the selector keeps it. -/
theorem kept_of_shown_zone {z : Zone} (h : z ∈ (s.answer r).1.zones) :
    (s.answer r).2.frozen.zones[z.id]? = some (.ofZone z) := by
  cases href : r.bars.reference? with
  | none => rw [answer_of_none href] at h; cases h
  | some reference =>
    rw [answer_of_some href] at h ⊢
    have hshown : z ∈ (s.shown r).1 := (narrow_subperm _ _ _ _ _ _).subset h
    unfold shown at hshown
    rw [Frozen.showZones_eq] at hshown
    simp only [banded, shown, Frozen.showClusters_eq, Frozen.showZones_eq]
    exact ofZones.kept_of_mem hshown

/-- A cluster is shown where the selector keeps it. -/
theorem kept_of_shown_cluster {c : ZoneCluster} (h : c ∈ (s.answer r).1.clusters) :
    (s.answer r).2.frozen.clusters[c.id]? = some (.ofCluster c) := by
  cases href : r.bars.reference? with
  | none => rw [answer_of_none href] at h; cases h
  | some reference =>
    rw [answer_of_some href] at h ⊢
    have hbanded : c ∈ (s.banded r reference).1 := List.mem_mergeSort.mp h
    unfold banded at hbanded
    rw [Frozen.showClusters_eq] at hbanded
    simp only [banded, Frozen.showClusters_eq]
    exact ofClusters.kept_of_mem hbanded

theorem released_zone {id : String} {g : Geometry} (hid : r.Delivers id)
    (hg : s.frozen.zones[id]? = some g) : (s.released r).zones[id]? = some g := by
  unfold released
  rw [Frozen.zones_retain, hg, Option.filter_some_pos]
  exact List.contains_iff_mem.mpr (SelectionRequest.delivers_iff.mp hid)

theorem released_cluster {id : String} {g : Geometry} (hid : r.Delivers id)
    (hg : s.frozen.clusters[id]? = some g) : (s.released r).clusters[id]? = some g := by
  unfold released
  rw [Frozen.clusters_retain, hg, Option.filter_some_pos]
  exact List.contains_iff_mem.mpr (SelectionRequest.delivers_iff.mp hid)

/-- The geometry of a zone is kept as long as its identity is delivered. -/
theorem answer_keeps_zone {id : String} {g : Geometry} (hid : r.Delivers id)
    (hg : s.frozen.zones[id]? = some g) : (s.answer r).2.frozen.zones[id]? = some g := by
  have hreleased := released_zone hid hg
  cases href : r.bars.reference? with
  | none => rw [answer_of_none href]; exact hreleased
  | some reference =>
    rw [answer_of_some href]
    simp only [banded, shown, Frozen.showClusters_eq, Frozen.showZones_eq]
    exact ofZones.keepFirst_keeps hreleased

/-- The geometry of a band is kept as long as its identity is delivered. -/
theorem answer_keeps_cluster {id : String} {g : Geometry} (hid : r.Delivers id)
    (hg : s.frozen.clusters[id]? = some g) : (s.answer r).2.frozen.clusters[id]? = some g := by
  have hreleased := released_cluster hid hg
  cases href : r.bars.reference? with
  | none => rw [answer_of_none href]; exact hreleased
  | some reference =>
    rw [answer_of_some href]
    simp only [banded, shown, Frozen.showClusters_eq, Frozen.showZones_eq]
    exact ofClusters.keepFirst_keeps hreleased

/-! ## A run of answers -/

/-- The answer behind another one comes from the selector that this one leaves behind. -/
theorem answers_succ {requests : List SelectionRequest} {k : Nat} {next : Selection × Selector}
    (h : (s.answers requests)[k + 1]? = some next) :
    ∃ out r, (s.answers requests)[k]? = some out ∧ requests[k + 1]? = some r ∧
      next = out.2.answer r := by
  induction requests generalizing s k with
  | nil => simp [answers] at h
  | cons r rest ih =>
    simp only [answers, List.getElem?_cons_succ] at h ⊢
    cases k with
    | zero =>
      cases rest with
      | nil => simp [answers] at h
      | cons r' rest =>
        simp only [answers, List.getElem?_cons_zero, Option.some.injEq] at h ⊢
        exact ⟨_, _, rfl, rfl, h.symm⟩
    | succ k =>
      obtain ⟨out, r', hout, hr', hnext⟩ := ih h
      exact ⟨out, r', by simpa using hout, by simpa using hr', hnext⟩

/-- **A run.** What each answer to a delivery of an identity keeps, all of them together keep. -/
theorem answers_keep {P : Selector → Prop} {id : String}
    (hkeeps : ∀ {s : Selector} {r : SelectionRequest}, r.Delivers id → P s → P (s.answer r).2)
    {requests : List SelectionRequest} {m n : Nat} {first last : Selection × Selector}
    (hm : (s.answers requests)[m]? = some first) (hn : (s.answers requests)[n]? = some last)
    (hmn : m ≤ n)
    (hdelivered : ∀ k r, m ≤ k → k ≤ n → requests[k]? = some r → r.Delivers id)
    (hP : P first.2) : P last.2 := by
  induction hmn generalizing last with
  | refl =>
    rw [hm, Option.some.injEq] at hn
    exact hn ▸ hP
  | step hmn ih =>
    obtain ⟨out, r, hout, hr, rfl⟩ := answers_succ hn
    have hP' := ih hout fun k r hk hkn => hdelivered k r hk (Nat.le_succ_of_le hkn)
    exact hkeeps (hdelivered _ r (Nat.le_succ_of_le hmn) (Nat.le_refl _) hr) hP'

theorem answers_eq_answer {requests : List SelectionRequest} {k : Nat}
    {out : Selection × Selector} (h : (s.answers requests)[k]? = some out) :
    ∃ (before : Selector) (r : SelectionRequest), out = before.answer r := by
  cases k with
  | zero =>
    cases requests with
    | nil => simp [answers] at h
    | cons r rest =>
      simp only [answers, List.getElem?_cons_zero, Option.some.injEq] at h
      exact ⟨_, _, h.symm⟩
  | succ k =>
    obtain ⟨before, r, -, -, rfl⟩ := answers_succ h
    exact ⟨_, _, rfl⟩

/-- **No repaint.** If an identity comes with finite bounds in every request from the `m`-th to the
`n`-th, its zone has the same place in both answers, if it is shown in both, and so has the band
that it names. -/
theorem same_geometry_throughout {requests : List SelectionRequest} {m n : Nat}
    {first last : Selection × Selector} {id : String}
    (hm : (s.answers requests)[m]? = some first) (hn : (s.answers requests)[n]? = some last)
    (hmn : m ≤ n)
    (hdelivered : ∀ k r, m ≤ k → k ≤ n → requests[k]? = some r →
      ∃ z ∈ r.zones, z.id = id ∧ z.hasFiniteBounds = true) :
    (∀ z ∈ first.1.zones, z.id = id → ∀ z' ∈ last.1.zones, z'.id = id →
      z'.min = z.min ∧ z'.max = z.max ∧ z'.originTime = z.originTime) ∧
    (∀ c ∈ first.1.clusters, c.id = id → ∀ c' ∈ last.1.clusters, c'.id = id →
      c'.min = c.min ∧ c'.max = c.max ∧ c'.startTime = c.startTime) := by
  obtain ⟨before, r, rfl⟩ := answers_eq_answer hm
  obtain ⟨before', r', rfl⟩ := answers_eq_answer hn
  constructor
  · intro z hz hid z' hz' hid'
    have hkept := kept_of_shown_zone hz
    have hkept' := kept_of_shown_zone hz'
    rw [hid] at hkept
    rw [hid'] at hkept'
    have hlast := answers_keep (P := fun s => s.frozen.zones[id]? = some (.ofZone z))
      answer_keeps_zone hm hn hmn hdelivered hkept
    rw [hlast, Option.some.injEq] at hkept'
    simpa [Geometry.ofZone, eq_comm] using hkept'
  · intro c hc hid c' hc' hid'
    have hkept := kept_of_shown_cluster hc
    have hkept' := kept_of_shown_cluster hc'
    rw [hid] at hkept
    rw [hid'] at hkept'
    have hlast := answers_keep (P := fun s => s.frozen.clusters[id]? = some (.ofCluster c))
      answer_keeps_cluster hm hn hmn hdelivered hkept
    rw [hlast, Option.some.injEq] at hkept'
    simpa [Geometry.ofCluster, eq_comm] using hkept'

/-! ## A zone that drifts -/

/-- A band from `low` to `high` that arose in the quarter of an hour from `origin` on. -/
def quarterZone (low high : Float) (origin : Time) : Zone where
  id := "a"
  min := low
  max := high
  direction := .bullish
  kind := .demand
  role := .entry
  state := .fresh
  score := 0.0
  timeframe := quarterHour
  originTime := origin

/-- Three closed quarters of an hour. -/
def quarterBars : BarSeries :=
  { bars := [0, 900, 1800].map fun time => ⟨time, 100.0, 101.0, 99.0, 100.0, 1.0, true⟩ }

/-- The zone comes, then comes while no bar is known, then comes with other bounds and origin. -/
def drifting : List SelectionRequest :=
  [⟨[quarterZone 100.0 101.0 0], quarterBars, none, .all⟩,
   ⟨[quarterZone 100.0 101.0 0], {}, none, .all⟩,
   ⟨[quarterZone 100.5 102.5 900], quarterBars, none, .all⟩]

theorem drifting_zone_stays :
    ∃ first last : Selection × Selector,
      (answers ⟨{}, {}⟩ drifting)[0]? = some first ∧ (answers ⟨{}, {}⟩ drifting)[2]? = some last ∧
      first.1.zones.map (·.id) = ["a"] ∧ last.1.zones.map (·.id) = ["a"] ∧
      first.1.clusters.map (·.id) = ["a"] ∧ last.1.clusters.map (·.id) = ["a"] ∧
      (∀ z ∈ first.1.zones, z.id = "a" → ∀ z' ∈ last.1.zones, z'.id = "a" →
        z'.min = z.min ∧ z'.max = z.max ∧ z'.originTime = z.originTime) ∧
      (∀ c ∈ first.1.clusters, c.id = "a" → ∀ c' ∈ last.1.clusters, c'.id = "a" →
        c'.min = c.min ∧ c'.max = c.max ∧ c'.startTime = c.startTime) := by
  have hdelivered : ∀ r ∈ drifting, ∃ z ∈ r.zones, z.id = "a" ∧ z.hasFiniteBounds = true := by
    decide +kernel
  refine ⟨_, _, rfl, rfl, by decide +kernel, by decide +kernel, by decide +kernel,
    by decide +kernel, ?_⟩
  exact same_geometry_throughout rfl rfl (Nat.zero_le 2)
    fun k r _ _ hr => hdelivered r (List.mem_of_getElem? hr)

end ChartLayer.Selector
