import ChartLayer.Proofs.Zone.Envelope
import ChartLayer.Proofs.Zone.Provenance

/-!
# What a band covers

A band is frozen as it is first shown, and is shown so for as long as its identity is delivered,
while zones go on joining and leaving it. So it covers the zones that it was made of, its founders,
and nothing is promised of those that join later.

* `frozen_cluster_after`: one answer keeps old bounds, or takes those of a cluster shown first now.
* `founder_of_kept`: so the bounds that a run of answers keeps are those of a founding cluster.
* `band_covers_founders`: and a cluster shown covers every member that it shares with that one.
* `late_member_sticks_out`: a zone that joins later may reach beyond the band.
-/

namespace ChartLayer.Selector

open Freezing (ofZones ofClusters)

variable {s : Selector} {r : SelectionRequest} {requests : List SelectionRequest} {n : Nat}

/-! ## Finite bounds -/

theorem bounded_of_delivered {z : Zone} (h : z ∈ r.delivered) : z.Bounded := by
  obtain ⟨y, hy, rfl⟩ := List.mem_map.mp (mem_of_mem_uniqueById h)
  have hfinite := (List.mem_filter.mp hy).2
  unfold Zone.hasFiniteBounds at hfinite
  rw [Bool.and_eq_true] at hfinite
  unfold Zone.ordered
  split
  · exact ⟨hfinite.2, hfinite.1⟩
  · exact hfinite

/-- A zone shown lies where a delivery was, between finite bounds. -/
theorem bounded_of_shown (hempty : s.frozen = {}) {last : Selection × Selector}
    (hn : (s.answers requests)[n]? = some last) {z : Zone} (hz : z ∈ last.1.zones) : z.Bounded := by
  obtain ⟨before, r, -, rfl⟩ := answers_asked hn
  obtain ⟨m, request, d, hsource⟩ := source_of_kept hempty hn (kept_of_shown_zone hz)
  have hd := bounded_of_delivered hsource.delivered
  have hmin : d.min = z.min := congrArg Geometry.min hsource.place
  have hmax : d.max = z.max := congrArg Geometry.max hsource.place
  rw [Zone.Bounded, hmin, hmax] at hd
  exact hd

/-! ## One answer -/

theorem of_released_cluster {id : String} {g : Geometry}
    (h : (s.released r).clusters[id]? = some g) :
    s.frozen.clusters[id]? = some g ∧ r.Delivers id := by
  unfold released at h
  rw [Frozen.clusters_retain, Option.filter_eq_some_iff] at h
  exact ⟨h.1, SelectionRequest.delivers_iff.mpr (List.contains_iff_mem.mp h.2)⟩

/-- A cluster that is shown as its zones came together this time. -/
structure ShowsFresh (s : Selector) (r : SelectionRequest) (c : ZoneCluster) : Prop where
  shown : c ∈ (s.answer r).1.clusters
  grouped : ∃ rules, c ∈ clustersOf rules (s.answer r).1.zones

/-- **One answer.** Bounds that are kept were kept before, or are those of a cluster that is shown
as its zones came together this time. -/
theorem frozen_cluster_after {id : String} {g : Geometry}
    (h : (s.answer r).2.frozen.clusters[id]? = some g) :
    (s.frozen.clusters[id]? = some g ∧ r.Delivers id) ∨
      ∃ c, s.ShowsFresh r c ∧ c.id = id ∧ Geometry.ofCluster c = g := by
  cases href : r.bars.reference? with
  | none =>
    rw [answer_of_none href] at h
    exact Or.inl (of_released_cluster h)
  | some reference =>
    rw [answer_of_some href] at h
    have hkept := h
    simp only [banded, shown, Frozen.showClusters_eq, Frozen.showZones_eq] at h
    rw [Freezing.getElem?_keepFirst, Option.or_eq_some_iff] at h
    rcases h with hold | ⟨-, hnew⟩
    · exact Or.inl (of_released_cluster hold)
    · obtain ⟨c, hfind, hgeometry⟩ := Option.map_eq_some_iff.mp hnew
      have hfound := List.find?_some hfind
      have hid : c.id = id := of_decide_eq_true hfound
      have hmem := List.mem_of_find?_eq_some hfind
      refine Or.inr ⟨c, ⟨?_, ⟨s.rules.overlapRatio, reference.abs * s.rules.gapRatio⟩, ?_⟩,
        hid, hgeometry⟩
      · -- What is kept is its own geometry, so freezing leaves it as it is.
        rw [answer_of_some href]
        apply List.mem_mergeSort.mpr
        unfold banded at hkept ⊢
        rw [Frozen.showClusters_eq] at hkept ⊢
        refine List.mem_map.mpr ⟨c, hmem, ofClusters.shownBy_of_kept ?_⟩
        rw [← hgeometry, ← hid] at hkept
        exact hkept
      · rw [answer_of_some href]
        exact hmem

/-! ## A run of answers -/

/-- What the bounds of a cluster `c` in the `n`-th answer come from: the cluster `f` in the `m`-th
answer, which has the same bounds and is as wide as the zones it was made of then. -/
structure Founder (s : Selector) (requests : List SelectionRequest) (n : Nat) (id : String)
    (g : Geometry) (m : Nat) (f : ZoneCluster) : Prop where
  earlier : m ≤ n
  shown : ∃ out, (s.answers requests)[m]? = some out ∧ f ∈ out.1.clusters
  identity : f.id = id
  place : Geometry.ofCluster f = g
  spans : f.Spans
  /-- The identity has come with every request since. -/
  throughout : ∀ k r, m ≤ k → k ≤ n → requests[k]? = some r → r.Delivers id

variable {id : String} {g : Geometry}

theorem delivers_of_shown {z : Zone} (h : z ∈ (s.answer r).1.zones) : r.Delivers z.id := by
  obtain ⟨d, hd, hid, -⟩ := trusted_of_shown h
  exact hid ▸ delivers_of_trusted hd

/-- A cluster that is shown as it came together is its own founder. -/
theorem founder_of_fresh (hempty : s.frozen = {}) {before : Selector}
    (hn : (s.answers requests)[n]? = some (before.answer r)) (hr : requests[n]? = some r)
    {c : ZoneCluster} (hc : before.ShowsFresh r c) :
    Founder s requests n c.id (.ofCluster c) n c where
  earlier := Nat.le_refl n
  shown := ⟨_, hn, hc.shown⟩
  identity := rfl
  place := rfl
  spans := by
    obtain ⟨rules, hgrouped⟩ := hc.grouped
    exact spans_clustersOf (fun z hz => bounded_of_shown hempty hn hz) c hgrouped
  throughout k r' hnk hkn hk := by
    obtain rfl := Nat.le_antisymm hkn hnk
    rw [hr, Option.some.injEq] at hk
    obtain ⟨rules, hgrouped⟩ := hc.grouped
    have hmember := mem_zones_of_mem_members hc.shown (representative_mem hgrouped)
    exact hk ▸ delivers_of_shown hmember

/-- A founder stays one as long as its identity is delivered. -/
theorem Founder.succ {m : Nat} {f : ZoneCluster} (h : Founder s requests n id g m f)
    (hr : requests[n + 1]? = some r) (hid : r.Delivers id) :
    Founder s requests (n + 1) id g m f where
  earlier := Nat.le_succ_of_le h.earlier
  shown := h.shown
  identity := h.identity
  place := h.place
  spans := h.spans
  throughout k r' hmk hkn hk := by
    rcases Nat.le_succ_iff.mp hkn with hkn | rfl
    · exact h.throughout k r' hmk hkn hk
    · rw [hr, Option.some.injEq] at hk
      exact hk ▸ hid

/-- **A run.** The bounds that are kept have a founder, if none were kept at the start. -/
theorem founder_of_kept (hempty : s.frozen = {}) {last : Selection × Selector}
    (hn : (s.answers requests)[n]? = some last) (hg : last.2.frozen.clusters[id]? = some g) :
    ∃ m f, Founder s requests n id g m f := by
  induction n generalizing last with
  | zero =>
    obtain ⟨r, hr, rfl⟩ := answers_zero hn
    rcases frozen_cluster_after hg with ⟨hold, -⟩ | ⟨c, hc, rfl, rfl⟩
    · rw [hempty] at hold
      simp at hold
    · exact ⟨0, c, founder_of_fresh hempty hn hr hc⟩
  | succ n ih =>
    obtain ⟨out, r, hout, hr, rfl⟩ := answers_succ hn
    rcases frozen_cluster_after hg with ⟨hold, hid⟩ | ⟨c, hc, rfl, rfl⟩
    · obtain ⟨m, f, hfounder⟩ := ih hout hold
      exact ⟨m, f, hfounder.succ hr hid⟩
    · exact ⟨n + 1, c, founder_of_fresh hempty hn hr hc⟩

/-- A zone lies where it was shown before, if it has been delivered ever since. -/
theorem bounds_eq_of_delivered {m : Nat} {first last : Selection × Selector}
    (hm : (s.answers requests)[m]? = some first) (hn : (s.answers requests)[n]? = some last)
    (hmn : m ≤ n) {y z : Zone} (hy : y ∈ first.1.zones) (hz : z ∈ last.1.zones) (hid : y.id = z.id)
    (hdelivered : ∀ k r, m ≤ k → k ≤ n → requests[k]? = some r → r.Delivers z.id) :
    y.min = z.min ∧ y.max = z.max := by
  obtain ⟨before, r, -, rfl⟩ := answers_asked hm
  obtain ⟨before', r', -, rfl⟩ := answers_asked hn
  have hkept := kept_of_shown_zone hy
  rw [hid] at hkept
  have hlast := answers_keep (P := fun s => s.frozen.zones[z.id]? = some (.ofZone y))
    answer_keeps_zone hm hn hmn hdelivered hkept
  rw [kept_of_shown_zone hz, Option.some.injEq] at hlast
  exact ⟨(congrArg Geometry.min hlast).symm, (congrArg Geometry.max hlast).symm⟩

/-- Freezing leaves a cluster its representative. -/
theorem representative_mem_of_shown {c : ZoneCluster} (hc : c ∈ (s.answer r).1.clusters) :
    c.representative ∈ c.members := by
  cases href : r.bars.reference? with
  | none =>
    rw [answer_of_none href] at hc
    cases hc
  | some reference =>
    rw [answer_of_some href] at hc
    have hbanded : c ∈ (s.banded r reference).1 := List.mem_mergeSort.mp hc
    unfold banded at hbanded
    rw [Frozen.showClusters_eq] at hbanded
    obtain ⟨c₀, hc₀, rfl⟩ := List.mem_map.mp hbanded
    have hmem : c₀.representative ∈ c₀.members := representative_mem hc₀
    exact hmem

/-- What the founder spans the cluster covers. -/
theorem Founder.covers {c f : ZoneCluster} {m : Nat} {last : Selection × Selector}
    (h : Founder s requests n c.id (.ofCluster c) m f)
    (hn : (s.answers requests)[n]? = some last) {z : Zone} (hz : z ∈ last.1.zones)
    (hfounding : z.id ∈ f.members.map Zone.id)
    (hdelivered : ∀ k r, m ≤ k → k ≤ n → requests[k]? = some r → r.Delivers z.id) :
    c.min ≤ z.min ∧ z.max ≤ c.max := by
  obtain ⟨out, hm, hf⟩ := h.shown
  obtain ⟨y, hy, hid⟩ := List.mem_map.mp hfounding
  obtain ⟨before, r, -, rfl⟩ := answers_asked hm
  obtain ⟨hmin, hmax⟩ := bounds_eq_of_delivered hm hn h.earlier
    (mem_zones_of_mem_members hf hy) hz hid hdelivered
  have hcmin : f.min = c.min := congrArg Geometry.min h.place
  have hcmax : f.max = c.max := congrArg Geometry.max h.place
  rw [← hcmin, ← hcmax, ← hmin, ← hmax]
  exact ⟨h.spans.bottoms.2 y hy, h.spans.tops.2 y hy⟩

/-- An answer that holds the founder itself shows the cluster as its members came together. -/
theorem Founder.spans_of_eq {c f : ZoneCluster} (h : Founder s requests n c.id (.ofCluster c) n f)
    {last : Selection × Selector} (hn : (s.answers requests)[n]? = some last)
    (hc : c ∈ last.1.clusters) : c.Spans := by
  obtain ⟨out, hm, hf⟩ := h.shown
  rw [hn, Option.some.injEq] at hm
  subst hm
  obtain ⟨before, r, -, rfl⟩ := answers_asked hn
  have hcf : f = c := List.inj_on_of_nodup_map (nodup_ids_clusters before r) hf hc h.identity
  exact hcf ▸ h.spans

/-- **A band covers its founders.** In every run of a selector that starts with nothing kept, a
cluster that the `n`-th answer shows has the bounds of a cluster of the same id which an answer up
to then has shown, and which reached from the lowest to the highest price of its members. Since then
the id has been delivered with every request. The cluster covers all its members if that was the
same answer. Else it covers each member that was already one of that cluster and has been delivered
with every request since, in any case its representative. -/
theorem band_covers_founders {rules : ZoneRules} {last : Selection × Selector}
    (hn : ((⟨rules, {}⟩ : Selector).answers requests)[n]? = some last) {c : ZoneCluster}
    (hc : c ∈ last.1.clusters) :
    ∃ m f, Founder ⟨rules, {}⟩ requests n c.id (.ofCluster c) m f ∧
      (m = n → c.Spans) ∧
      (∀ z ∈ c.members, z.id ∈ f.members.map Zone.id →
        (∀ k r, m ≤ k → k ≤ n → requests[k]? = some r → r.Delivers z.id) →
        c.min ≤ z.min ∧ z.max ≤ c.max) ∧
      c.representative ∈ c.members ∧
      c.min ≤ c.representative.min ∧ c.representative.max ≤ c.max := by
  obtain ⟨before, r, hr, rfl⟩ := answers_asked hn
  obtain ⟨m, f, hfounder⟩ := founder_of_kept rfl hn (kept_of_shown_cluster hc)
  have hrep := representative_mem_of_shown hc
  have hshown : ∀ z ∈ c.members, z ∈ (before.answer r).1.zones :=
    fun z hz => mem_zones_of_mem_members hc hz
  refine ⟨m, f, hfounder, ?_, ?_, hrep, ?_⟩
  · rintro rfl
    exact hfounder.spans_of_eq hn hc
  · intro z hz hfounding hdelivered
    exact hfounder.covers hn (hshown z hz) hfounding hdelivered
  · obtain ⟨out, hm, hf⟩ := hfounder.shown
    obtain ⟨before', r', -, rfl⟩ := answers_asked hm
    refine hfounder.covers hn (hshown _ hrep) ?_ hfounder.throughout
    -- Both clusters are named by their representatives.
    have hid : f.representative.id = c.representative.id := hfounder.identity
    rw [← hid]
    exact List.mem_map_of_mem (representative_mem_of_shown hf)

/-! ## A zone that joins late -/

theorem sortByPrice_pair {a b : Zone} (h : (priceOrder a b).isLE = true) :
    sortByPrice [a, b] = [a, b] := by
  unfold sortByPrice
  apply List.mergeSort_of_pairwise
  simpa using h

/-- A worse candidate that overlaps `quarterZone 100.0 101.0 0` and ends above it. -/
def lateZone : Zone :=
  { quarterZone 100.5 102.0 0 with id := "b", state := .tested }

/-- The history is closed for a quarter of an hour. -/
def firstQuarter : BarSeries := { bars := [⟨900, 100.0, 101.0, 99.0, 100.0, 1.0, true⟩] }

/-- The zone `a` comes alone, then with another one beside it. -/
def joined : List SelectionRequest :=
  [⟨[quarterZone 100.0 101.0 0], firstQuarter, none, .all⟩,
   ⟨[quarterZone 100.0 101.0 0, lateZone], firstQuarter, none, .all⟩]

/-- The cluster of both, as the second answer shows it. -/
def joinedCluster : ZoneCluster where
  representative := quarterZone 100.0 101.0 0
  members := [quarterZone 100.0 101.0 0, lateZone]
  startTime := 0
  min := 100.0
  max := 101.0

theorem joinedCluster_shown :
    ∃ last, (answers ⟨{}, {}⟩ joined)[1]? = some last ∧ joinedCluster ∈ last.1.clusters := by
  refine ⟨_, rfl, ?_⟩
  obtain ⟨r, hr⟩ : ∃ r, r = joined[1] := ⟨_, rfl⟩
  obtain ⟨s, hs⟩ : ∃ s : Selector, s = (answer ⟨{}, {}⟩ joined[0]).2 := ⟨_, rfl⟩
  change joinedCluster ∈ ((answer ⟨{}, {}⟩ joined[0]).2.answer joined[1]).1.clusters
  rw [← hs, ← hr]
  have hsorted := sortByPrice_pair (a := quarterZone 100.0 101.0 0) (b := lateZone) (by decide)
  have hdelivered : r.delivered = [quarterZone 100.0 101.0 0, lateZone] := by
    subst hr
    unfold SelectionRequest.delivered
    rw [uniqueById_eq_sortByPrice (by decide +kernel)]
    exact hsorted
  have hshown : (s.shown r).1 = [quarterZone 100.0 101.0 0, lateZone] := by
    unfold shown released SelectionRequest.trusted
    rw [hdelivered, hs, hr]
    decide +kernel
  have hnarrowed : s.narrowed r 100.0 = [quarterZone 100.0 101.0 0, lateZone] := by
    have hview : r.shownView? = none := by
      rw [hr]
      decide +kernel
    unfold narrowed narrow
    rw [hshown, hview]
    exact hsorted
  have hgrouped : s.grouped r 100.0 = [{ joinedCluster with max := 102.0 }] := by
    unfold grouped clustersOf
    rw [hnarrowed, hsorted, hs]
    decide +kernel
  have hbanded : (s.banded r 100.0).1 = [joinedCluster] := by
    unfold banded
    rw [hgrouped]
    unfold shown released SelectionRequest.trusted
    rw [hdelivered, hs, hr]
    decide +kernel
  have href : r.bars.reference? = some 100.0 := by
    rw [hr]
    decide +kernel
  rw [answer_of_some href]
  apply List.mem_mergeSort.mpr
  rw [hbanded]
  exact List.mem_singleton_self joinedCluster

theorem joined_covers_founders :
    ∃ last, (answers ⟨{}, {}⟩ joined)[1]? = some last ∧ joinedCluster ∈ last.1.clusters ∧
      ∃ m f, Founder ⟨{}, {}⟩ joined 1 "a" (.ofCluster joinedCluster) m f ∧
        (m = 1 → joinedCluster.Spans) ∧
        (∀ z ∈ joinedCluster.members, z.id ∈ f.members.map Zone.id →
          (∀ k r, m ≤ k → k ≤ 1 → joined[k]? = some r → r.Delivers z.id) →
          joinedCluster.min ≤ z.min ∧ z.max ≤ joinedCluster.max) ∧
        joinedCluster.representative ∈ joinedCluster.members ∧
        joinedCluster.min ≤ joinedCluster.representative.min ∧
        joinedCluster.representative.max ≤ joinedCluster.max := by
  obtain ⟨last, hlast, hshown⟩ := joinedCluster_shown
  exact ⟨last, hlast, hshown, band_covers_founders hlast hshown⟩

/-- **A member may stick out.** The second answer shows a cluster with a member that ends above
it. -/
theorem late_member_sticks_out :
    ∃ last c z, (answers ⟨{}, {}⟩ joined)[1]? = some last ∧ c ∈ last.1.clusters ∧
      z ∈ c.members ∧ ¬ (c.min ≤ z.min ∧ z.max ≤ c.max) := by
  obtain ⟨last, hlast, hshown⟩ := joinedCluster_shown
  refine ⟨last, joinedCluster, lateZone, hlast, hshown, by decide, ?_⟩
  decide +kernel

end ChartLayer.Selector
