import ChartLayer.Proofs.Zone.Candidates
import ChartLayer.Proofs.Zone.Envelope
import ChartLayer.Proofs.Zone.View

/-!
# What a cluster says of its members

A cluster gives its members as one band: from the lowest to the highest price of them, from the
earliest time, in the name of the best candidate (`ZoneCluster.SumsUp`). The sweep knows the lowest
price, the earliest time and the best candidate only when it closes a group, and the highest price
all along.

* `sumsUp_clustersOf`: every cluster that a sweep closes sums up its members.
* `clusters_sum_up`: the members of all clusters are the zones by price, each cluster sums up its
  own, and with distinct ids the order in which the zones come makes no difference.
-/

namespace ChartLayer

/-- A cluster reaches as far as its members, begins with the earliest, and is named by the best. -/
structure ZoneCluster.SumsUp (c : ZoneCluster) : Prop where
  spans : c.Spans
  begins : ∃ z ∈ c.members, c.startTime = z.originTime
  earliest : ∀ z ∈ c.members, c.startTime ≤ z.originTime
  named : c.representative ∈ c.members
  best : ∀ z ∈ c.members, (candidateOrder c.representative z).isLE = true

/-- A group that spans its zones is closed to their summary. -/
theorem sumsUp_closeGroup? {group : List Zone} {top : Float} {c : ZoneCluster} (hspans : c.Spans)
    (h : closeGroup? group top = some c) : c.SumsUp := by
  obtain ⟨hbest, rfl, hstart, -⟩ := closeGroup?_eq_some h
  obtain ⟨hbegins, hearliest⟩ := List.min?_eq_some_iff.mp hstart
  obtain ⟨first, hfirst, heq⟩ := List.mem_map.mp hbegins
  exact {
    spans := hspans
    begins := ⟨first, hfirst, heq.symm⟩
    earliest := fun z hz => hearliest _ (List.mem_map_of_mem hz)
    named := mem_of_best? hbest
    best := isLE_of_best? hbest }

/-- **Summaries.** The clusters of zones with finite bounds sum up their members. -/
theorem sumsUp_clustersOf {rules : ClusterRules} {zones : List Zone}
    (hbounded : ∀ z ∈ zones, z.Bounded) {c : ZoneCluster} (hc : c ∈ clustersOf rules zones) :
    c.SumsUp := by
  obtain ⟨closed, high, hclosed⟩ := exists_closeGroup? hc
  exact sumsUp_closeGroup? (spans_clustersOf hbounded c hc) hclosed

/-- **Clusters sum up their members.** For zones with finite bounds, whatever the rules: one after
the other, the members of the clusters are the zones sorted by price. Each cluster reaches from the
lowest to the highest price of its members, begins with the earliest of them, and is named by one
that no member comes before as a candidate. With distinct ids, the zones in any other order give
the same clusters. -/
theorem clusters_sum_up (rules : ClusterRules) (zones : List Zone)
    (hbounded : ∀ z ∈ zones, z.Bounded) :
    (clustersOf rules zones).flatMap ZoneCluster.members = sortByPrice zones
      ∧ (∀ c ∈ clustersOf rules zones, c.SumsUp)
      ∧ ((zones.map Zone.id).Nodup → ∀ others, zones.Perm others →
        clustersOf rules others = clustersOf rules zones) := by
  refine ⟨members_clustersOf rules zones, fun c hc => sumsUp_clustersOf hbounded hc, ?_⟩
  intro hid others hperm
  rw [clustersOf, clustersOf, sortByPrice_eq_of_perm hperm hid]

/-! ## Three uneven zones -/

instance (z : Zone) : Decidable z.Bounded := inferInstanceAs (Decidable (_ ∧ _))

/-- The widest comes first, the best second, and the earliest last. -/
def unevenZones : List Zone :=
  [{ plainZone "wide" 1.0 10.0 with state := .tested, originTime := 900 },
    { plainZone "nested" 2.0 3.0 with originTime := 1800 },
    { plainZone "late" 10.25 12.0 with state := .mitigated }]

/-- The three as one band. -/
def unevenCluster : ZoneCluster where
  representative := { plainZone "nested" 2.0 3.0 with originTime := 1800 }
  members := unevenZones
  startTime := 0
  min := 1.0
  max := 12.0

/-- The band has its bounds, its beginning and its name each from another member. -/
theorem uneven_zones_sum_up :
    let rules : ClusterRules := ⟨0.5, 0.5⟩
    (∀ z ∈ unevenZones, z.Bounded) ∧ clustersOf rules unevenZones = [unevenCluster] ∧
      unevenCluster.SumsUp ∧ clustersOf rules unevenZones.reverse = [unevenCluster] := by
  intro rules
  have hbounded : ∀ z ∈ unevenZones, z.Bounded := by decide +kernel
  have hsorted : sortByPrice unevenZones = unevenZones :=
    List.mergeSort_of_pairwise (by decide +kernel)
  have hone : clustersOf rules unevenZones = [unevenCluster] := by
    rw [clustersOf, hsorted]
    decide +kernel
  obtain ⟨-, hsum, hperm⟩ := clusters_sum_up rules unevenZones hbounded
  refine ⟨hbounded, hone, hsum _ (by rw [hone]; exact List.mem_singleton_self _), ?_⟩
  rw [hperm (by decide) _ (List.reverse_perm unevenZones).symm, hone]

end ChartLayer
