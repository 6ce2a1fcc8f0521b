import ChartLayer.Proofs.Zone.NoRepaint
import ChartLayer.Proofs.Zone.Trust

/-!
# Where the place of a zone comes from

A zone has to be truthful to be shown, but it is shown where its identity was first seen. So what
the check says of a delivery it says of the zone shown only as long as timeframe and closed history
stay what they were. `Selector.Source` is what remains: the place comes from a delivery that was
truthful when it came, and its identity has been delivered ever since.

* `frozen_zone_after`: one answer keeps an old place, or takes one from a truthful delivery.
* `source_of_kept`: so every place that a run of answers keeps has a source.
* `source_of_shown`: and so has every zone shown, as itself or as a member of a cluster.
* `truth_fades`: two runs that show a zone which is not truthful any more.
-/

namespace ChartLayer.Selector

open Freezing (ofZones ofClusters)

variable {s : Selector} {r : SelectionRequest}

/-! ## One answer -/

/-- The members of a cluster are shown by themselves as well. -/
theorem mem_zones_of_mem_members {c : ZoneCluster} {z : Zone} (hc : c ∈ (s.answer r).1.clusters)
    (hz : z ∈ c.members) : z ∈ (s.answer r).1.zones := by
  cases href : r.bars.reference? with
  | none =>
    rw [answer_of_none href] at hc
    cases hc
  | some reference =>
    rw [answer_of_some href] at hc ⊢
    have hbanded : c ∈ (s.banded r reference).1 := List.mem_mergeSort.mp hc
    unfold banded at hbanded
    rw [Frozen.showClusters_eq] at hbanded
    obtain ⟨c₀, hc₀, rfl⟩ := List.mem_map.mp hbanded
    -- freezing moves a cluster and leaves its members
    have hmember : z ∈ c₀.members := hz
    have hall : z ∈ (s.grouped r reference).flatMap ZoneCluster.members :=
      List.mem_flatMap.mpr ⟨c₀, hc₀, hmember⟩
    unfold grouped at hall
    rw [members_clustersOf] at hall
    exact (sortByPrice_perm _).mem_iff.mp hall

/-- A zone shown is a trusted one, put where its identity is kept. -/
theorem moved_of_shown {z : Zone} (h : z ∈ (s.answer r).1.zones) :
    ∃ d ∈ r.trusted, ∃ g : Geometry, z = g.applyZone d := by
  cases href : r.bars.reference? with
  | none =>
    rw [answer_of_none href] at h
    cases h
  | some reference =>
    rw [answer_of_some href] at h
    have hshown : z ∈ (s.shown r).1 := (narrow_subperm _ _ _ _ _ _).subset h
    unfold shown at hshown
    rw [Frozen.showZones_eq] at hshown
    obtain ⟨d, hd, rfl⟩ := List.mem_map.mp hshown
    exact ⟨d, hd, _, rfl⟩

theorem trusted_of_shown {z : Zone} (h : z ∈ (s.answer r).1.zones) :
    ∃ d ∈ r.trusted, d.id = z.id ∧ d.timeframe = z.timeframe := by
  obtain ⟨d, hd, g, rfl⟩ := moved_of_shown h
  exact ⟨d, hd, rfl, rfl⟩

theorem delivers_of_trusted {z : Zone} (h : z ∈ r.trusted) : r.Delivers z.id :=
  SelectionRequest.delivers_iff.mpr (List.mem_map_of_mem (SelectionRequest.mem_trusted.mp h).1)

theorem of_released_zone {id : String} {g : Geometry} (h : (s.released r).zones[id]? = some g) :
    s.frozen.zones[id]? = some g ∧ r.Delivers id := by
  unfold released at h
  rw [Frozen.zones_retain, Option.filter_eq_some_iff] at h
  exact ⟨h.1, SelectionRequest.delivers_iff.mpr (List.contains_iff_mem.mp h.2)⟩

/-- **One answer.** A place that is kept was kept before, or is that of a truthful delivery. -/
theorem frozen_zone_after {id : String} {g : Geometry}
    (h : (s.answer r).2.frozen.zones[id]? = some g) :
    (s.frozen.zones[id]? = some g ∧ r.Delivers id) ∨
      ∃ d ∈ r.trusted, d.id = id ∧ Geometry.ofZone d = g := by
  cases href : r.bars.reference? with
  | none =>
    rw [answer_of_none href] at h
    exact Or.inl (of_released_zone h)
  | some reference =>
    rw [answer_of_some href] at h
    simp only [banded, shown, Frozen.showClusters_eq, Frozen.showZones_eq] at h
    rw [Freezing.getElem?_keepFirst, Option.or_eq_some_iff] at h
    rcases h with hold | ⟨-, hnew⟩
    · exact Or.inl (of_released_zone hold)
    · obtain ⟨d, hfind, hgeometry⟩ := Option.map_eq_some_iff.mp hnew
      have hfound := List.find?_some hfind
      have hid : d.id = id := of_decide_eq_true hfound
      exact Or.inr ⟨d, List.mem_of_find?_eq_some hfind, hid, hgeometry⟩

/-! ## A run of answers -/

theorem answers_zero {requests : List SelectionRequest} {first : Selection × Selector}
    (h : (s.answers requests)[0]? = some first) :
    ∃ r, requests[0]? = some r ∧ first = s.answer r := by
  cases requests with
  | nil => simp [answers] at h
  | cons r rest =>
    simp only [answers, List.getElem?_cons_zero, Option.some.injEq] at h
    exact ⟨r, rfl, h.symm⟩

/-- Where a place that is kept after the `n`-th answer comes from: the zone `d`, delivered with the
`m`-th request and truthful then. -/
structure Source (requests : List SelectionRequest) (n : Nat) (id : String) (g : Geometry)
    (m : Nat) (request : SelectionRequest) (d : Zone) : Prop where
  earlier : m ≤ n
  asked : requests[m]? = some request
  delivered : d ∈ request.delivered
  trusted : request.Trusts d
  identity : d.id = id
  place : Geometry.ofZone d = g
  /-- The identity has come with every request since. -/
  throughout : ∀ k r, m ≤ k → k ≤ n → requests[k]? = some r → r.Delivers id

variable {requests : List SelectionRequest} {n : Nat} {id : String} {g : Geometry}

/-- A truthful delivery is its own source. -/
theorem source_of_trusted (hr : requests[n]? = some r) {d : Zone} (hd : d ∈ r.trusted) :
    Source requests n d.id (.ofZone d) n r d where
  earlier := Nat.le_refl n
  asked := hr
  delivered := (SelectionRequest.mem_trusted.mp hd).1
  trusted := (SelectionRequest.mem_trusted.mp hd).2
  identity := rfl
  place := rfl
  throughout k r' hnk hkn hk := by
    obtain rfl := Nat.le_antisymm hkn hnk
    rw [hr, Option.some.injEq] at hk
    exact hk ▸ delivers_of_trusted hd

/-- A source stays one as long as its identity is delivered. -/
theorem Source.succ {m : Nat} {request : SelectionRequest} {d : Zone}
    (h : Source requests n id g m request d) (hr : requests[n + 1]? = some r)
    (hid : r.Delivers id) : Source requests (n + 1) id g m request d where
  earlier := Nat.le_succ_of_le h.earlier
  asked := h.asked
  delivered := h.delivered
  trusted := h.trusted
  identity := h.identity
  place := h.place
  throughout k r' hmk hkn hk := by
    rcases Nat.le_succ_iff.mp hkn with hkn | rfl
    · exact h.throughout k r' hmk hkn hk
    · rw [hr, Option.some.injEq] at hk
      exact hk ▸ hid

/-- **A run.** Every place that is kept has a source, if none was kept at the start. -/
theorem source_of_kept (hempty : s.frozen = {}) {last : Selection × Selector}
    (hn : (s.answers requests)[n]? = some last) (hg : last.2.frozen.zones[id]? = some g) :
    ∃ m request d, Source requests n id g m request d := by
  induction n generalizing last with
  | zero =>
    obtain ⟨r, hr, rfl⟩ := answers_zero hn
    rcases frozen_zone_after hg with ⟨hold, -⟩ | ⟨d, hd, rfl, rfl⟩
    · rw [hempty] at hold
      simp at hold
    · exact ⟨0, r, d, source_of_trusted hr hd⟩
  | succ n ih =>
    obtain ⟨out, r, hout, hr, rfl⟩ := answers_succ hn
    rcases frozen_zone_after hg with ⟨hold, hid⟩ | ⟨d, hd, rfl, rfl⟩
    · obtain ⟨m, request, d, hsource⟩ := ih hout hold
      exact ⟨m, request, d, hsource.succ hr hid⟩
    · exact ⟨n + 1, r, d, source_of_trusted hr hd⟩

/-- The answers belong to the requests. -/
theorem answers_asked {last : Selection × Selector} (hn : (s.answers requests)[n]? = some last) :
    ∃ (before : Selector) (r : SelectionRequest), requests[n]? = some r ∧
      last = before.answer r := by
  cases n with
  | zero =>
    obtain ⟨r, hr, rfl⟩ := answers_zero hn
    exact ⟨s, r, hr, rfl⟩
  | succ n =>
    obtain ⟨out, r, -, hr, rfl⟩ := answers_succ hn
    exact ⟨out.2, r, hr, rfl⟩

/-- A zone in the place of its source is as truthful as that, if the timeframe is the same and the
history is closed as far. -/
theorem Source.trusts {m : Nat} {request : SelectionRequest} {d z : Zone}
    (h : Source requests n id (.ofZone z) m request d) (htimeframe : d.timeframe = z.timeframe)
    (hclosed : ∀ t, request.closed? = some t → ∃ t', r.closed? = some t' ∧ t ≤ t') :
    r.Trusts z := by
  have horigin : d.originTime = z.originTime := congrArg Geometry.origin h.place
  obtain ⟨haligned, t, ht, hover⟩ := h.trusted
  obtain ⟨t', ht', hle⟩ := hclosed t ht
  rw [htimeframe, horigin] at haligned hover
  exact ⟨haligned, t', ht', Int.le_trans hover (Int64.le_iff_toInt_le.mp hle)⟩

/-- **Zones shown were truthful.** In every run of a selector that starts with nothing kept, a zone
that the `n`-th answer shows, by itself or in a cluster, was delivered truthful with the `n`-th
request in its identity and its timeframe. Its place is that of a delivery which was truthful with
the request it came with; if that had the same timeframe, and the history is still closed as far,
then the zone shown is truthful itself. -/
theorem source_of_shown {rules : ZoneRules} {last : Selection × Selector}
    (hn : ((⟨rules, {}⟩ : Selector).answers requests)[n]? = some last)
    (hr : requests[n]? = some r) {z : Zone}
    (hz : z ∈ last.1.zones ∨ ∃ c ∈ last.1.clusters, z ∈ c.members) :
    (∃ d ∈ r.delivered, r.Trusts d ∧ d.id = z.id ∧ d.timeframe = z.timeframe) ∧
      ∃ m request d, Source requests n z.id (.ofZone z) m request d ∧
        (d.timeframe = z.timeframe →
          (∀ t, request.closed? = some t → ∃ t', r.closed? = some t' ∧ t ≤ t') → r.Trusts z) := by
  obtain ⟨before, r', hr', hlast⟩ := answers_asked hn
  rw [hr, Option.some.injEq] at hr'
  subst hr'
  subst hlast
  have hshown : z ∈ (before.answer r).1.zones := by
    rcases hz with hz | ⟨c, hc, hmember⟩
    · exact hz
    · exact mem_zones_of_mem_members hc hmember
  constructor
  · obtain ⟨d, hd, hid, htimeframe⟩ := trusted_of_shown hshown
    obtain ⟨hdelivered, htrusts⟩ := SelectionRequest.mem_trusted.mp hd
    exact ⟨d, hdelivered, htrusts, hid, htimeframe⟩
  · obtain ⟨m, request, d, hsource⟩ := source_of_kept rfl hn (kept_of_shown_zone hshown)
    exact ⟨m, request, d, hsource, hsource.trusts⟩

theorem source_of_drifting :
    ∃ last : Selection × Selector, (answers ⟨{}, {}⟩ drifting)[2]? = some last ∧
      quarterZone 100.0 101.0 0 ∈ last.1.zones ∧
      (∃ d ∈ (drifting[2]).delivered, (drifting[2]).Trusts d ∧ d.id = "a" ∧
        d.timeframe = quarterHour) ∧
      ∃ m request d,
        Source drifting 2 "a" (.ofZone (quarterZone 100.0 101.0 0)) m request d ∧
          (d.timeframe = quarterHour →
            (∀ t, request.closed? = some t → ∃ t', (drifting[2]).closed? = some t' ∧ t ≤ t') →
            (drifting[2]).Trusts (quarterZone 100.0 101.0 0)) := by
  obtain ⟨last, hlast, hshown⟩ : ∃ last : Selection × Selector,
      (answers ⟨{}, {}⟩ drifting)[2]? = some last ∧
        quarterZone 100.0 101.0 0 ∈ last.1.zones := ⟨_, rfl, by decide +kernel⟩
  exact ⟨last, hlast, hshown, source_of_shown hlast rfl (Or.inl hshown)⟩

/-! ## Truth fades -/

/-- The timeframe of an hour. -/
def fullHour : Timeframe := ⟨3600, by decide⟩

/-- The zone comes again as one of an hour, for which it begins at 0. -/
def coarsened : List SelectionRequest :=
  let bars : BarSeries :=
    { bars := [0, 900, 1800, 2700, 3600].map fun time =>
        ⟨time, 100.0, 101.0, 99.0, 100.0, 1.0, true⟩ }
  [⟨[quarterZone 99.0 100.0 900], bars, some quarterHour, .all⟩,
   ⟨[{ quarterZone 99.0 100.0 0 with timeframe := fullHour }], bars, some quarterHour, .all⟩]

/-- The zone comes with an earlier origin, and a part of the history is taken back. -/
def shortened : List SelectionRequest :=
  [⟨[quarterZone 99.0 100.0 1800], quarterBars, some quarterHour, .all⟩,
   ⟨[quarterZone 99.0 100.0 0], { bars := quarterBars.bars.take 1 }, some quarterHour, .all⟩]

/-- **Truth fades.** The second answer of both runs shows a zone that is not truthful then: one at
900 seconds, where no hour begins, and one whose bucket ends after the history that is left. -/
theorem truth_fades :
    (∃ last z, (answers ⟨{}, {}⟩ coarsened)[1]? = some last ∧ z ∈ last.1.zones ∧
      ¬ z.timeframe.secs.toInt ∣ z.originTime.toInt) ∧
    (∃ last z closed, (answers ⟨{}, {}⟩ shortened)[1]? = some last ∧ z ∈ last.1.zones ∧
      (shortened[1]).closed? = some closed ∧
      closed.toInt < z.originTime.toInt + z.timeframe.secs.toInt) := by
  constructor
  · refine ⟨_, { quarterZone 99.0 100.0 900 with timeframe := fullHour }, rfl, ?_, ?_⟩
    · decide +kernel
    · decide
  · refine ⟨_, quarterZone 99.0 100.0 1800, 900, rfl, ?_, ?_, ?_⟩
    · decide +kernel
    · decide +kernel
    · decide

end ChartLayer.Selector
