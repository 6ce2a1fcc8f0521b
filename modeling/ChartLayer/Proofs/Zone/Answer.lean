import ChartLayer.Proofs.Zone.Cleaning
import ChartLayer.Proofs.Zone.Frozen
import ChartLayer.Proofs.Zone.Sweep
import ChartLayer.Proofs.Zone.View

/-!
# One selection, stage by stage

A `SelectionRequest` is what a selector is asked, `Selector.answer` its answer and
`Selector.answers` the answers to several requests, each from the selector that the one before
leaves behind. An answer goes through these stages, each a function of request and selector:

delivered → trusted → shown → narrowed → grouped → banded

`answer_of_none` and `answer_of_some` say which of them make up the answer.
-/

namespace ChartLayer

/-- What a selector is asked. -/
structure SelectionRequest where
  zones : List Zone
  bars : BarSeries
  view : Option Timeframe
  limit : LimitMode

namespace SelectionRequest

/-- One zone with finite bounds for each identity. -/
def delivered (r : SelectionRequest) : List Zone := uniqueById (finiteZones r.zones)

/-- The view, else the spacing of the bars. -/
def shownView? (r : SelectionRequest) : Option Timeframe := r.view.or r.bars.granularity?

/-- The truthful ones of the zones delivered. -/
def trusted (r : SelectionRequest) : List Zone :=
  (keepTruthful r.delivered (closedThrough? r.bars r.shownView?)).1

/-- How many zones are dropped before any is looked at. -/
def cleaned (r : SelectionRequest) : SelectionCounts :=
  { input := r.zones.length
    nonFinite := r.zones.length - (finiteZones r.zones).length
    duplicates := (finiteZones r.zones).length - r.delivered.length }

/-- Some zone of this identity comes with finite bounds. -/
def Delivers (r : SelectionRequest) (id : String) : Prop :=
  ∃ z ∈ r.zones, z.id = id ∧ z.hasFiniteBounds = true

end SelectionRequest

@[simp] theorem Zone.id_ordered (z : Zone) : z.ordered.id = z.id := by
  unfold Zone.ordered; split <;> rfl

theorem ids_finiteZones (zones : List Zone) :
    (finiteZones zones).map Zone.id = (zones.filter Zone.hasFiniteBounds).map Zone.id := by
  unfold finiteZones
  rw [List.map_map]
  exact List.map_congr_left fun z _ => z.id_ordered

theorem SelectionRequest.delivers_iff {r : SelectionRequest} {id : String} :
    r.Delivers id ↔ id ∈ r.delivered.map Zone.id := by
  unfold Delivers delivered
  have hids : (∃ z ∈ finiteZones r.zones, z.id = id) ↔ id ∈ (finiteZones r.zones).map Zone.id := by
    rw [List.mem_map]
  rw [mem_ids_uniqueById, hids, ids_finiteZones, List.mem_map]
  constructor
  · rintro ⟨z, hz, hid, hfin⟩
    exact ⟨z, List.mem_filter.mpr ⟨hz, hfin⟩, hid⟩
  · rintro ⟨z, hz, hid⟩
    exact ⟨z, (List.mem_filter.mp hz).1, hid, (List.mem_filter.mp hz).2⟩

namespace Selector

/-! ## The stages -/

/-- **Narrowing.** A view shows each zone at most once, and no other. -/
theorem narrow_subperm (rules : ZoneRules) (bars : BarSeries) (reference : Float)
    (view : Option Timeframe) (limit : LimitMode) (zones : List Zone) :
    (narrow rules bars reference view limit zones).Subperm zones := by
  unfold narrow
  split
  · exact (sortByPrice_perm zones).subperm
  · exact refine_subperm _ zones

/-- The answer to a request, and the selector afterwards. -/
def answer (s : Selector) (r : SelectionRequest) : Selection × Selector :=
  s.select r.zones r.bars r.view r.limit

/-- The answers to several requests, each with the selector afterwards. -/
def answers (s : Selector) : List SelectionRequest → List (Selection × Selector)
  | [] => []
  | r :: rest => s.answer r :: (s.answer r).2.answers rest

/-- The geometry of the identities delivered. -/
def released (s : Selector) (r : SelectionRequest) : Frozen :=
  (s.frozen.retain (r.delivered.map Zone.id)).2

/-- The trusted zones as they are shown, and the geometry kept then. -/
def shown (s : Selector) (r : SelectionRequest) : List Zone × Frozen :=
  (s.released r).showZones r.trusted

/-- The zones that the view leaves. -/
def narrowed (s : Selector) (r : SelectionRequest) (reference : Float) : List Zone :=
  narrow s.rules r.bars reference r.shownView? r.limit (s.shown r).1

/-- The clusters of these zones, as they come together this time. -/
def grouped (s : Selector) (r : SelectionRequest) (reference : Float) : List ZoneCluster :=
  clustersOf
    { overlapRatio := s.rules.overlapRatio
      gapTolerance := reference.abs * s.rules.gapRatio }
    (s.narrowed r reference)

/-- The clusters as they are shown, and the geometry kept then. -/
def banded (s : Selector) (r : SelectionRequest) (reference : Float) : List ZoneCluster × Frozen :=
  (s.shown r).2.showClusters (s.grouped r reference)

variable {s : Selector} {r : SelectionRequest} {reference : Float}

theorem answer_of_none (h : r.bars.reference? = none) :
    s.answer r = ({ stats := r.cleaned }, { s with frozen := s.released r }) := by
  unfold answer select
  rw [h]
  rfl

theorem answer_of_some (h : r.bars.reference? = some reference) :
    s.answer r =
      ({ clusters := (s.banded r reference).1.mergeSort fun a b => (clusterOrder a b).isLE
         zones := s.narrowed r reference
         reference := some reference
         stats :=
          { r.cleaned with
            untrusted := (keepTruthful r.delivered (closedThrough? r.bars r.shownView?)).2
            refinedOut := (s.shown r).1.length - (s.narrowed r reference).length
            clusters :=
              ((s.banded r reference).1.mergeSort fun a b => (clusterOrder a b).isLE).length } },
       { s with frozen := (s.banded r reference).2 }) := by
  unfold answer select
  rw [h]
  rfl

/-! ## Identities -/

theorem nodup_ids_shown (s : Selector) (r : SelectionRequest) :
    ((s.shown r).1.map Zone.id).Nodup := by
  unfold shown
  rw [Frozen.showZones_ids]
  exact (List.filter_sublist.map Zone.id).nodup (nodup_uniqueById _)

theorem nodup_ids_narrowed (s : Selector) (r : SelectionRequest) (reference : Float) :
    ((s.narrowed r reference).map Zone.id).Nodup := by
  obtain ⟨zones, hperm, hsub⟩ :=
    narrow_subperm s.rules r.bars reference r.shownView? r.limit (s.shown r).1
  have hnodup := (hsub.map Zone.id).nodup (nodup_ids_shown s r)
  exact (hperm.map Zone.id).nodup_iff.mp hnodup

/-- **Bands.** No two clusters of a selection have one id. -/
theorem nodup_ids_clusters (s : Selector) (r : SelectionRequest) :
    ((s.answer r).1.clusters.map ZoneCluster.id).Nodup := by
  cases h : r.bars.reference? with
  | none => rw [answer_of_none h]; exact List.nodup_nil
  | some reference =>
    rw [answer_of_some h]
    have hsorted := (List.mergeSort_perm (s.banded r reference).1
      fun a b => (clusterOrder a b).isLE).map ZoneCluster.id
    rw [hsorted.nodup_iff]
    unfold banded
    rw [Frozen.showClusters_ids]
    exact nodup_ids_clustersOf _ (nodup_ids_narrowed s r reference)

end Selector

end ChartLayer
