import ChartLayer.Proofs.Zone.Founders

/-!
# Another view and back

Each view trusts, freezes and clusters zones of its own, and the geometry that it freezes is kept.
None of that shows when the first view comes back: its answer rests on the geometry of the zones and
clusters that it shows, all of which was frozen when it was first asked for and is kept as long as
their identities are delivered.

* `Keeps`: one selector has the geometry that another one has of the identities delivered.
* `answer_eq_of_keeps`: then it gives the answer that the other one gave.
* `answer_again`: so the same request again changes nothing at all.
* `Keeps.following`: whatever views the zones are asked for in, their geometry is kept.
* `view_and_back`: so the first answer comes again.
-/

namespace ChartLayer

namespace Selector

open Freezing (ofZones ofClusters)

variable {s t : Selector} {r : SelectionRequest}

/-- `t` selects by the rules of `s`, and has the geometry that `s` has of the identities
delivered. -/
structure Keeps (t s : Selector) (r : SelectionRequest) : Prop where
  rules : t.rules = s.rules
  zones : ∀ {id : String} {g : Geometry}, r.Delivers id →
    s.frozen.zones[id]? = some g → t.frozen.zones[id]? = some g
  clusters : ∀ {id : String} {g : Geometry}, r.Delivers id →
    s.frozen.clusters[id]? = some g → t.frozen.clusters[id]? = some g

theorem Keeps.refl (s : Selector) (r : SelectionRequest) : Keeps s s r :=
  ⟨rfl, fun _ h => h, fun _ h => h⟩

theorem rules_answer (s : Selector) (r : SelectionRequest) : (s.answer r).2.rules = s.rules := by
  cases href : r.bars.reference? with
  | none => rw [answer_of_none href]
  | some reference => rw [answer_of_some href]

/-! ## The same answer -/

theorem zones_answer {reference : Float} (href : r.bars.reference? = some reference) :
    (s.answer r).2.frozen.zones = ofZones.keepFirst r.trusted (s.released r).zones := by
  rw [answer_of_some href]
  simp only [banded, shown, Frozen.showClusters_eq, Frozen.showZones_eq]

theorem clusters_answer {reference : Float} (href : r.bars.reference? = some reference) :
    (s.answer r).2.frozen.clusters =
      ofClusters.keepFirst (s.grouped r reference) (s.released r).clusters := by
  rw [answer_of_some href]
  simp only [banded, shown, Frozen.showClusters_eq, Frozen.showZones_eq]

/-- A cluster is named by a zone shown, so its identity is delivered. -/
theorem delivers_of_grouped {reference : Float} (href : r.bars.reference? = some reference)
    {c : ZoneCluster} (hc : c ∈ s.grouped r reference) : r.Delivers c.id := by
  have hmember : c.representative ∈ (s.grouped r reference).flatMap ZoneCluster.members :=
    List.mem_flatMap.mpr ⟨c, hc, representative_mem hc⟩
  unfold grouped at hmember
  rw [members_clustersOf, mem_sortByPrice] at hmember
  have hshown : c.representative ∈ (s.answer r).1.zones := by
    rw [answer_of_some href]
    exact hmember
  exact delivers_of_shown hshown

theorem Keeps.shown_eq {reference : Float} (h : t.Keeps (s.answer r).2 r)
    (href : r.bars.reference? = some reference) : (t.shown r).1 = (s.shown r).1 := by
  unfold shown
  rw [Frozen.showZones_eq, Frozen.showZones_eq]
  refine ofZones.map_shownBy_of_keeps fun z hz g hg => ?_
  have hdelivers := delivers_of_trusted hz
  rw [← zones_answer href] at hg
  exact released_zone hdelivers (h.zones hdelivers hg)

theorem Keeps.narrowed_eq {reference : Float} (h : t.Keeps (s.answer r).2 r)
    (href : r.bars.reference? = some reference) :
    t.narrowed r reference = s.narrowed r reference := by
  unfold narrowed
  rw [h.rules, rules_answer, h.shown_eq href]

theorem Keeps.grouped_eq {reference : Float} (h : t.Keeps (s.answer r).2 r)
    (href : r.bars.reference? = some reference) :
    t.grouped r reference = s.grouped r reference := by
  unfold grouped
  rw [h.rules, rules_answer, h.narrowed_eq href]

theorem Keeps.banded_eq {reference : Float} (h : t.Keeps (s.answer r).2 r)
    (href : r.bars.reference? = some reference) :
    (t.banded r reference).1 = (s.banded r reference).1 := by
  unfold banded
  rw [Frozen.showClusters_eq, Frozen.showClusters_eq, h.grouped_eq href]
  simp only [shown, Frozen.showZones_eq]
  refine ofClusters.map_shownBy_of_keeps fun c hc g hg => ?_
  have hdelivers := delivers_of_grouped href hc
  rw [← clusters_answer href] at hg
  exact released_cluster hdelivers (h.clusters hdelivers hg)

/-- **The same answer.** A selector that keeps what another one has kept since its answer answers
the same. -/
theorem answer_eq_of_keeps (h : t.Keeps (s.answer r).2 r) : (t.answer r).1 = (s.answer r).1 := by
  cases href : r.bars.reference? with
  | none => rw [answer_of_none href, answer_of_none href]
  | some reference =>
    rw [answer_of_some href, answer_of_some href, h.shown_eq href, h.narrowed_eq href,
      h.banded_eq href]

/-! ## The same selector -/

/-- All that is kept after an answer is of identities that were delivered. -/
theorem released_answer (s : Selector) (r : SelectionRequest) :
    (s.answer r).2.released r = (s.answer r).2.frozen := by
  refine Frozen.retain_of_present (fun hg => ?_) (fun hg => ?_)
  · refine SelectionRequest.delivers_iff.mp ?_
    rcases frozen_zone_after hg with ⟨-, hid⟩ | ⟨d, hd, rfl, -⟩
    · exact hid
    · exact delivers_of_trusted hd
  · refine SelectionRequest.delivers_iff.mp ?_
    rcases frozen_cluster_after hg with ⟨-, hid⟩ | ⟨c, ⟨hshown, rules, hgrouped⟩, rfl, -⟩
    · exact hid
    · exact delivers_of_shown (mem_zones_of_mem_members hshown (representative_mem hgrouped))

/-- The same request again freezes nothing new. -/
theorem frozen_answer_again (s : Selector) (r : SelectionRequest) :
    ((s.answer r).2.answer r).2.frozen = (s.answer r).2.frozen := by
  have hreleased := released_answer s r
  cases href : r.bars.reference? with
  | none =>
    rw [answer_of_none (s := (s.answer r).2) href]
    exact hreleased
  | some reference =>
    have hzones : ((s.answer r).2.answer r).2.frozen.zones = (s.answer r).2.frozen.zones := by
      rw [zones_answer href, hreleased]
      refine ofZones.keepFirst_of_kept fun z hz => ?_
      rw [zones_answer href]
      exact ofZones.keepFirst_isSome hz _
    have hclusters :
        ((s.answer r).2.answer r).2.frozen.clusters = (s.answer r).2.frozen.clusters := by
      rw [clusters_answer href, hreleased, (Keeps.refl _ r).grouped_eq href]
      refine ofClusters.keepFirst_of_kept fun c hc => ?_
      rw [clusters_answer href]
      exact ofClusters.keepFirst_isSome hc _
    exact Frozen.mk.injEq _ _ _ _ ▸ ⟨hzones, hclusters⟩

/-- **Idempotence.** The same request again gets the same answer and leaves the same selector. -/
theorem answer_again (s : Selector) (r : SelectionRequest) :
    (s.answer r).2.answer r = s.answer r := by
  refine Prod.ext (answer_eq_of_keeps (Keeps.refl _ r)) ?_
  have hrules := rules_answer (s.answer r).2 r
  have hfrozen := frozen_answer_again s r
  exact Selector.mk.injEq _ _ _ _ ▸ ⟨hrules, hfrozen⟩

/-! ## Asking for other views -/

/-- The selector after some requests. -/
def following (s : Selector) (requests : List SelectionRequest) : Selector :=
  requests.foldl (fun s r => (s.answer r).2) s

/-- One more answer to the same zones keeps what was kept. -/
theorem Keeps.answer (h : t.Keeps s r) {other : SelectionRequest} (hzones : other.zones = r.zones) :
    (t.answer other).2.Keeps s r := by
  have hdelivers {id : String} (hid : r.Delivers id) : other.Delivers id := by
    unfold SelectionRequest.Delivers at hid ⊢
    rwa [hzones]
  exact
    { rules := (rules_answer t other).trans h.rules
      zones := fun hid hg => answer_keeps_zone (hdelivers hid) (h.zones hid hg)
      clusters := fun hid hg => answer_keeps_cluster (hdelivers hid) (h.clusters hid hg) }

theorem Keeps.following (h : t.Keeps s r) {requests : List SelectionRequest}
    (hzones : ∀ other ∈ requests, other.zones = r.zones) : (t.following requests).Keeps s r := by
  induction requests generalizing t with
  | nil => exact h
  | cons other rest ih =>
    rw [List.forall_mem_cons] at hzones
    exact ih (h.answer hzones.1) hzones.2

end Selector

/-- The same zones and bars, asked for in another view and with another limit. -/
def SelectionRequest.seenIn (r : SelectionRequest) (focus : Option Timeframe × LimitMode) :
    SelectionRequest :=
  { r with view := focus.1, limit := focus.2 }

namespace Selector

/-- **Another view and back.** After any number of requests for the same zones and bars in other
views and with other limits, the first request gets the answer that it got at first. If nothing else
is asked for in between, the selector is left as it was, too. -/
theorem view_and_back (s : Selector) (r : SelectionRequest) :
    (∀ others : List (Option Timeframe × LimitMode),
      (((s.answer r).2.following (others.map r.seenIn)).answer r).1 = (s.answer r).1) ∧
    (s.answer r).2.answer r = s.answer r := by
  refine ⟨fun others => ?_, answer_again s r⟩
  have hzones : ∀ other ∈ others.map r.seenIn, other.zones = r.zones := by
    intro other hother
    obtain ⟨focus, -, rfl⟩ := List.mem_map.mp hother
    rfl
  exact answer_eq_of_keeps ((Keeps.refl _ r).following hzones)

end Selector

end ChartLayer
