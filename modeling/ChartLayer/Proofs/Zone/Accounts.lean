import ChartLayer.Proofs.Zone.Founders

/-!
# Nothing lost, nothing twice

Every zone that is delivered has bounds that are not finite, or repeats an identity, or is not
truthful, or is left out by the view, or is shown, and the counts of a selection say how many go
which way. What is shown is shown once: as one zone from low to high, and as a member of one
cluster.

A zone is shown where it was first seen, so its bounds rest on an earlier delivery. Those were
finite and in order then, and `IsBand` says so of every geometry that a selector keeps.

* `Balanced`, `balanced_answer`: the counts.
* `ascending_answer`: the zones, strictly from low to high.
* `members_answer`: the clusters, which hold these zones and no other.
* `Reachable.keepsBands`: the bounds, in every state that a selector can be in.
* `nothing_lost`: all of it together.
-/

namespace ChartLayer

/-! ## The counts -/

theorem length_finiteZones_le (zones : List Zone) : (finiteZones zones).length ≤ zones.length := by
  unfold finiteZones
  rw [List.length_map]
  exact List.length_filter_le _ _

theorem length_uniqueById_le (zones : List Zone) : (uniqueById zones).length ≤ zones.length := by
  have hnodup : (uniqueById zones).Nodup := (nodup_uniqueById zones).of_map
  exact (hnodup.subperm fun _ hz => mem_of_mem_uniqueById hz).length_le

theorem length_keepTruthful (zones : List Zone) (closed : Option Time) :
    (keepTruthful zones closed).2 + (keepTruthful zones closed).1.length = zones.length := by
  have hle : (zones.filter fun z => closed.any z.isTruthful).length ≤ zones.length :=
    List.length_filter_le _ _
  simp only [keepTruthful]
  omega

/-- The counts of a selection: each is the number of zones that one stage takes away. -/
structure Balanced (r : SelectionRequest) (out : Selection) : Prop where
  input : out.stats.input = r.zones.length
  nonFinite : out.stats.nonFinite + (finiteZones r.zones).length = r.zones.length
  duplicates : out.stats.duplicates + r.delivered.length = (finiteZones r.zones).length
  untrusted : out.stats.untrusted + r.trusted.length = r.delivered.length
  refinedOut : out.stats.refinedOut + out.zones.length = r.trusted.length

/-- The counts and the zones shown make up the zones delivered. -/
theorem Balanced.total {r : SelectionRequest} {out : Selection} (h : Balanced r out) :
    out.stats.input =
      out.stats.nonFinite + out.stats.duplicates + out.stats.untrusted + out.stats.refinedOut +
        out.zones.length := by
  obtain ⟨hinput, hnonFinite, hduplicates, huntrusted, hrefinedOut⟩ := h
  omega

namespace Selector

variable {s : Selector} {r : SelectionRequest} {reference : Float}

theorem length_shown (s : Selector) (r : SelectionRequest) :
    (s.shown r).1.length = r.trusted.length := by
  unfold shown
  rw [Frozen.showZones_eq, List.length_map]

theorem balanced_answer (href : r.bars.reference? = some reference) :
    Balanced r (s.answer r).1 := by
  have hfinite := length_finiteZones_le r.zones
  have hunique : r.delivered.length ≤ (finiteZones r.zones).length := length_uniqueById_le _
  have htrusted := length_keepTruthful r.delivered (closedThrough? r.bars r.shownView?)
  have hshown := length_shown s r
  have hnarrowed : (s.narrowed r reference).length ≤ (s.shown r).1.length :=
    (narrow_subperm _ _ _ _ _ _).length_le
  rw [answer_of_some href]
  constructor <;> simp only [SelectionRequest.cleaned]
  case untrusted => exact htrusted
  all_goals omega

/-! ## The zones -/

theorem sorted_narrow (rules : ZoneRules) (bars : BarSeries) (reference : Float)
    (view : Option Timeframe) (limit : LimitMode) (zones : List Zone) :
    (narrow rules bars reference view limit zones).Pairwise fun a b => (priceOrder a b).isLE := by
  unfold narrow
  split <;> exact sortByPrice_pairwise _

/-- Zones with different ids do not tie, so their order is strict. -/
theorem ascending_answer (href : r.bars.reference? = some reference) :
    (s.answer r).1.zones.Pairwise fun a b => priceOrder a b = .lt := by
  have hsorted := sorted_narrow s.rules r.bars reference r.shownView? r.limit (s.shown r).1
  have hdistinct := List.pairwise_map.mp (nodup_ids_narrowed s r reference)
  rw [answer_of_some href]
  refine (hsorted.and hdistinct).imp ?_
  rintro a b ⟨hle, hid⟩
  cases horder : priceOrder a b with
  | lt => rfl
  | eq => exact absurd (id_eq_of_priceOrder_eq horder) hid
  | gt =>
    rw [horder] at hle
    cases hle

/-! ## The clusters -/

/-- **Members.** Freezing and sorting the clusters leaves their members, which are the zones
shown. -/
theorem members_answer (href : r.bars.reference? = some reference) :
    ((s.answer r).1.clusters.flatMap ZoneCluster.members).Perm (s.answer r).1.zones := by
  rw [answer_of_some href]
  have hbanded : (s.banded r reference).1.flatMap ZoneCluster.members =
      sortByPrice (s.narrowed r reference) := by
    unfold banded
    rw [Frozen.showClusters_eq, List.flatMap_map]
    exact members_clustersOf _ _
  have hsorted := (List.mergeSort_perm (s.banded r reference).1
    fun a b => (clusterOrder a b).isLE).flatMap_right ZoneCluster.members
  rw [hbanded] at hsorted
  exact hsorted.trans (sortByPrice_perm _)

end Selector

/-! ## The bounds -/

/-- Finite bounds, in order. -/
structure Geometry.IsBand (g : Geometry) : Prop where
  low : g.min.isFinite = true
  high : g.max.isFinite = true
  ordered : g.min ≤ g.max

theorem isBand_of_delivered {r : SelectionRequest} {z : Zone} (h : z ∈ r.delivered) :
    (Geometry.ofZone z).IsBand := by
  obtain ⟨hlow, hhigh⟩ := Selector.bounded_of_delivered h
  refine ⟨hlow, hhigh, ?_⟩
  obtain ⟨y, -, rfl⟩ := List.mem_map.mp (mem_of_mem_uniqueById h)
  change y.ordered.min ≤ y.ordered.max
  unfold Zone.ordered at hlow hhigh ⊢
  by_cases hinverted : y.max < y.min
  · rw [if_pos hinverted]
    exact double_le_of_lt hinverted
  · rw [if_neg hinverted] at hlow hhigh ⊢
    exact (IsNumber.of_isFinite hlow).le_of_not_lt (IsNumber.of_isFinite hhigh) hinverted

namespace Selector

variable {s : Selector} {r : SelectionRequest} {reference : Float}

/-- The states of a selector: it starts with nothing kept, answers requests, and is cleared. -/
inductive Reachable : Selector → Prop
  | fresh (rules : ZoneRules) : Reachable { rules }
  | answer {s : Selector} (r : SelectionRequest) : Reachable s → Reachable (s.answer r).2
  | clear {s : Selector} : Reachable s → Reachable s.clear

/-- A selector whose geometries of zones are all bands. -/
def KeepsBands (s : Selector) : Prop :=
  ∀ ⦃id : String⦄ ⦃g : Geometry⦄, s.frozen.zones[id]? = some g → g.IsBand

/-- One answer keeps what was kept, and what it adds was delivered. -/
theorem KeepsBands.answer (h : s.KeepsBands) (r : SelectionRequest) :
    (s.answer r).2.KeepsBands := by
  intro id g hg
  rcases frozen_zone_after hg with ⟨hold, -⟩ | ⟨d, hd, -, rfl⟩
  · exact h hold
  · exact isBand_of_delivered (SelectionRequest.mem_trusted.mp hd).1

theorem Reachable.keepsBands (h : Reachable s) : s.KeepsBands := by
  induction h with
  | fresh rules =>
    intro id g hg
    simp at hg
  | answer r _ ih => exact ih.answer r
  | clear _ _ =>
    intro id g hg
    simp [Selector.clear] at hg

/-- What becomes of the zones delivered: they are counted, or shown once. -/
structure Accounted (r : SelectionRequest) (out : Selection) : Prop extends Balanced r out where
  total : out.stats.input =
    out.stats.nonFinite + out.stats.duplicates + out.stats.untrusted + out.stats.refinedOut +
      out.zones.length
  distinct : (out.zones.map Zone.id).Nodup
  bounds : ∀ z ∈ out.zones, z.min.isFinite = true ∧ z.max.isFinite = true ∧ z.min ≤ z.max
  ascending : out.zones.Pairwise fun a b => priceOrder a b = .lt
  delivered : ∀ z ∈ out.zones, z.id ∈ r.zones.map Zone.id
  /-- Together the clusters hold the zones shown, each once. -/
  members : (out.clusters.flatMap ZoneCluster.members).Perm out.zones
  named : ∀ c ∈ out.clusters, c.members ≠ [] ∧ c.representative ∈ c.members

/-- **Nothing lost, nothing twice.** In every state of a selector, if there is a reference price,
all zones delivered are accounted for, and no count is a difference that was cut off at zero. -/
theorem nothing_lost (h : Reachable s) (href : r.bars.reference? = some reference) :
    Accounted r (s.answer r).1 where
  toBalanced := balanced_answer href
  total := (balanced_answer href).total
  distinct := by
    rw [answer_of_some href]
    exact nodup_ids_narrowed s r reference
  bounds := by
    intro z hz
    have hband := h.keepsBands.answer r (kept_of_shown_zone hz)
    exact ⟨hband.low, hband.high, hband.ordered⟩
  ascending := ascending_answer href
  delivered := by
    intro z hz
    obtain ⟨d, hd, hid, -⟩ := delivers_of_shown hz
    exact List.mem_map.mpr ⟨d, hd, hid⟩
  members := members_answer href
  named := by
    intro c hc
    have hrep := representative_mem_of_shown hc
    exact ⟨List.ne_nil_of_mem hrep, hrep⟩

/-- A zone without an upper bound, and two of one identity, the first of them upside down. -/
def unclean : SelectionRequest where
  zones :=
    [quarterZone 100.0 positiveInfinity 0, quarterZone 102.0 101.0 0,
      { quarterZone 99.0 100.0 0 with state := .tested }]
  bars := quarterBars
  view := none
  limit := .all

/-- The first of the two is fresher, and is shown where it was seen before. -/
theorem nothing_lost_of_unclean :
    let before := ((⟨{}, {}⟩ : Selector).answer drifting[0]).2
    before.Reachable ∧ unclean.bars.reference? = some 100.0 ∧
      (before.answer unclean).1.zones = [quarterZone 100.0 101.0 0] ∧
      Accounted unclean (before.answer unclean).1 := by
  have hreachable : ((⟨{}, {}⟩ : Selector).answer drifting[0]).2.Reachable :=
    .answer _ (.fresh {})
  have href : unclean.bars.reference? = some 100.0 := by decide +kernel
  exact ⟨hreachable, href, by decide +kernel, nothing_lost hreachable href⟩

end Selector

end ChartLayer
