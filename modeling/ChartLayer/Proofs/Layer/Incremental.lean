import ChartLayer.Proofs.Layer.Content
import ChartLayer.Proofs.Layer.Drawn
import ChartLayer.Proofs.Zone.DeliveryOrder
import ChartLayer.Proofs.Zone.ViewAndBack

/-!
# One zone after the other, or all at once

A layer selects its zones anew after every one that is merged, and each selection freezes what it
trusts. Zones that come one by one therefore meet a selector that has frozen the earlier ones. It
has frozen nothing that a selection from all of them would not freeze, though: whether a zone is
trusted is a matter of the bars and the view, and no later zone takes the place of one with another
identity.

* `SelectionRequest.Freezes`: the geometry that a selection from nothing freezes.
* `Selector.Anticipates`: a selector has frozen no other, and so its next answer freezes just that.
* `Selector.Anticipates.answer_alike`: two such selectors answer the same but for where the bands
  lie.
* `Content.exists_anticipating`: whatever zones came one by one, the selector anticipates all of
  them.
* `Layer.one_by_one_eq_at_once`: so the order of arrival is lost, and with it that there was one.
-/

namespace ChartLayer

/-! ## What a selection freezes -/

namespace SelectionRequest

variable {r : SelectionRequest} {id : String} {g g' : Geometry} {z : Zone}

/-- With a reference price, trusted zones are frozen where they are. -/
def Freezes (r : SelectionRequest) (id : String) (g : Geometry) : Prop :=
  r.bars.reference?.isSome = true ∧ ∃ z ∈ r.trusted, z.id = id ∧ .ofZone z = g

theorem eq_of_trusted {z' : Zone} (hz : z ∈ r.trusted) (hz' : z' ∈ r.trusted) (hid : z.id = z'.id) :
    z = z' := by
  have hnodup : (r.delivered.map Zone.id).Nodup := nodup_uniqueById _
  exact List.inj_on_of_nodup_map hnodup (mem_trusted.mp hz).1 (mem_trusted.mp hz').1 hid

/-- An identity is frozen in one place. -/
theorem Freezes.unique (h : r.Freezes id g) (h' : r.Freezes id g') : g = g' := by
  obtain ⟨-, z, hz, hid, rfl⟩ := h
  obtain ⟨-, z', hz', hid', rfl⟩ := h'
  rw [eq_of_trusted hz hz' (hid.trans hid'.symm)]

/-- All zones of a delivery without repetitions are looked at. -/
theorem Distinct.mem_delivered (h : r.Distinct) : z ∈ r.delivered ↔ z ∈ finiteZones r.zones := by
  have hnodup : ((finiteZones r.zones).map Zone.id).Nodup := by rw [ids_finiteZones]; exact h
  unfold delivered
  rw [uniqueById_eq_sortByPrice hnodup, mem_sortByPrice]

/-- The same request with more zones behind. -/
def withMore (r : SelectionRequest) (zones : List Zone) : SelectionRequest :=
  { r with zones := r.zones ++ zones }

/-- **More zones.** What is frozen is frozen with other zones behind, too. -/
theorem Freezes.withMore {zones : List Zone} (h : r.Freezes id g)
    (hdistinct : (r.withMore zones).Distinct) : (r.withMore zones).Freezes id g := by
  have hfinite : finiteZones (r.withMore zones).zones = finiteZones r.zones ++ finiteZones zones := by
    unfold finiteZones SelectionRequest.withMore
    rw [List.filter_append, List.map_append]
  obtain ⟨href, z, hz, hid, hg⟩ := h
  obtain ⟨hdelivered, htrusted⟩ := mem_trusted.mp hz
  have hz : z ∈ finiteZones r.zones := mem_of_mem_uniqueById hdelivered
  refine ⟨href, z, mem_trusted.mpr ⟨hdistinct.mem_delivered.mpr ?_, htrusted⟩, hid, hg⟩
  rw [hfinite]
  exact List.mem_append_left _ hz

end SelectionRequest

/-! ## A selector that has frozen nothing else -/

namespace Selector

open Freezing (ofZones ofClusters)

variable {s t : Selector} {r : SelectionRequest} {id : String} {g : Geometry}

/-- Every geometry of a zone that the selector keeps is one that the request freezes. -/
def Anticipates (s : Selector) (r : SelectionRequest) : Prop :=
  ∀ ⦃id : String⦄ ⦃g : Geometry⦄, s.frozen.zones[id]? = some g → r.Freezes id g

theorem anticipates_of_empty (h : s.frozen.zones = ∅) : s.Anticipates r := by
  intro id g hg
  simp [h] at hg

theorem Anticipates.withMore {zones : List Zone} (h : s.Anticipates r)
    (hdistinct : (r.withMore zones).Distinct) : s.Anticipates (r.withMore zones) :=
  fun _ _ hg => (h hg).withMore hdistinct

/-- **One answer.** Then the request freezes what it would have frozen by itself. -/
theorem Anticipates.kept_iff (h : s.Anticipates r) :
    (s.answer r).2.frozen.zones[id]? = some g ↔ r.Freezes id g := by
  have hfreezes {g : Geometry} (hg : (s.answer r).2.frozen.zones[id]? = some g) :
      r.Freezes id g := by
    cases href : r.bars.reference? with
    | none =>
      rw [answer_of_none href] at hg
      exact h (of_released_zone hg).1
    | some reference =>
      rcases frozen_zone_after hg with ⟨hold, -⟩ | hnew
      · exact h hold
      · exact ⟨by rw [href]; rfl, hnew⟩
  refine ⟨hfreezes, fun hg => ?_⟩
  have ⟨href, z, hz, hid, _⟩ := hg
  obtain ⟨reference, href⟩ := Option.isSome_iff_exists.mp href
  obtain ⟨g', hg'⟩ := ofZones.keepFirst_isSome hz (s.released r).zones
  rw [← zones_answer href] at hg'
  have hkept : (s.answer r).2.frozen.zones[id]? = some g' := hid ▸ hg'
  rw [hkept, (hfreezes hkept).unique hg]

theorem Anticipates.answer (h : s.Anticipates r) : (s.answer r).2.Anticipates r :=
  fun _ _ hg => h.kept_iff.mp hg

/-- Trusted zones are shown as they were delivered. -/
theorem Anticipates.shown_eq {reference : Float} (h : s.Anticipates r)
    (href : r.bars.reference? = some reference) : (s.shown r).1 = r.trusted := by
  have hplace : ∀ z ∈ r.trusted,
      ofZones.shownBy (ofZones.keepFirst r.trusted (s.released r).zones) z = z := by
    intro z hz
    refine ofZones.shownBy_of_kept ?_
    rw [← zones_answer href]
    exact h.kept_iff.mpr ⟨by rw [href]; rfl, z, hz, rfl, rfl⟩
  unfold shown
  rw [Frozen.showZones_eq]
  exact (List.map_congr_left hplace).trans (List.map_id' _)

theorem length_banded (s : Selector) (r : SelectionRequest) (reference : Float) :
    (s.banded r reference).1.length = (s.grouped r reference).length := by
  unfold banded
  rw [Frozen.showClusters_eq, List.length_map]

/-- The answers and the selectors afterwards agree but for where the bands lie. -/
structure AlikeButBands (a b : Selection × Selector) : Prop where
  zones : a.1.zones = b.1.zones
  reference : a.1.reference = b.1.reference
  stats : a.1.stats = b.1.stats
  frozen : a.2.frozen.zones = b.2.frozen.zones

/-- **Two selectors.** What either has frozen before does not matter. -/
theorem Anticipates.answer_alike (hs : s.Anticipates r) (ht : t.Anticipates r)
    (hrules : s.rules = t.rules) : AlikeButBands (s.answer r) (t.answer r) := by
  have hfrozen : (s.answer r).2.frozen.zones = (t.answer r).2.frozen.zones :=
    Std.ExtTreeMap.ext_getElem? fun id => Option.ext fun g => hs.kept_iff.trans ht.kept_iff.symm
  cases href : r.bars.reference? with
  | none =>
    rw [answer_of_none href, answer_of_none href] at hfrozen ⊢
    exact ⟨rfl, rfl, rfl, hfrozen⟩
  | some reference =>
    have hshown : (s.shown r).1 = (t.shown r).1 := (hs.shown_eq href).trans (ht.shown_eq href).symm
    have hnarrowed : s.narrowed r reference = t.narrowed r reference := by
      unfold narrowed
      rw [hrules, hshown]
    have hclusters : (s.banded r reference).1.length = (t.banded r reference).1.length := by
      rw [length_banded, length_banded]
      unfold grouped
      rw [hrules, hnarrowed]
    rw [answer_of_some href, answer_of_some href] at hfrozen ⊢
    refine ⟨hnarrowed, rfl, ?_, hfrozen⟩
    simp only [List.length_mergeSort, hshown, hnarrowed, hclusters]

end Selector

/-! ## One zone after the other -/

/-- A zone with a new identity comes behind the others. -/
theorem Layer.putZone_of_new {z : Zone} {zones : List Zone} (h : ∀ y ∈ zones, y.id ≠ z.id) :
    putZone z zones = zones ++ [z] := by
  induction zones with
  | nil => rfl
  | cons y rest ih =>
    rw [List.forall_mem_cons] at h
    unfold putZone
    rw [if_neg h.1, ih h.2, List.cons_append]

namespace Content

variable {c : Content}

/-- What is asked of the selector. -/
def request (c : Content) : SelectionRequest := ⟨c.zones, c.bars, c.view, c.limit⟩

theorem run_of_disposed (h : c.disposed = true) (commands : List Command) :
    c.run commands = c := by
  induction commands with
  | nil => rfl
  | cons command rest ih =>
    have hstep : c.step command = c := if_pos h
    unfold run at ih ⊢
    rw [List.foldl_cons, hstep, ih]

/-- The content with more zones, and a selector that may have seen some of them. -/
def met (c : Content) (zones : List Zone) (s : Selector) : Content :=
  { c with zones := c.zones ++ zones, selector := s }

theorem step_of_new {z : Zone} (hlive : c.disposed = false) (h : ∀ y ∈ c.zones, y.id ≠ z.id) :
    c.step (.mergeZone z) = (c.met [z] c.selector).refreshed := by
  have hput := Layer.putZone_of_new h
  unfold step met
  rw [if_neg (by simp [hlive])]
  change { c with zones := Layer.putZone z c.zones }.refreshed = _
  rw [hput]

/-- The selection in between is not seen any more. -/
theorem met_met (c : Content) (z : Zone) (rest : List Zone) (s t : Selector) :
    ((c.met [z] s).refreshed.met rest t).refreshed = (c.met (z :: rest) t).refreshed := by
  have hzones : c.zones ++ z :: rest = c.zones ++ [z] ++ rest := List.append_cons _ _ _
  unfold met
  rw [hzones]
  rfl

/-- **Any number of zones.** They leave what one selection from all of them leaves, if its selector
has frozen nothing else before. -/
theorem exists_anticipating (hlive : c.disposed = false)
    (hselector : c.selector.Anticipates c.request) {zones : List Zone} (hne : zones ≠ [])
    (hnodup : ((c.zones ++ zones).map Zone.id).Nodup) :
    ∃ s : Selector, s.rules = c.selector.rules ∧ s.Anticipates (c.request.withMore zones) ∧
      c.run (zones.map .mergeZone) = (c.met zones s).refreshed := by
  -- what the selector has frozen after one more zone is anticipated of the zones so far, and a zone
  -- with another identity does not change that
  induction zones generalizing c with
  | nil => exact absurd rfl hne
  | cons z rest ih =>
    have hzones : c.zones ++ z :: rest = c.zones ++ [z] ++ rest := List.append_cons _ _ _
    rw [hzones] at hnodup
    have hnew : ∀ y ∈ c.zones, y.id ≠ z.id := by
      have hhead := hnodup.sublist ((List.sublist_append_left _ _).map Zone.id)
      rw [List.map_append, List.nodup_append] at hhead
      exact fun y hy => hhead.2.2 _ (List.mem_map_of_mem hy) _ List.mem_cons_self
    have hdistinct : (c.request.withMore [z]).Distinct :=
      hnodup.sublist ((List.filter_sublist.trans (List.sublist_append_left _ _)).map Zone.id)
    have hmet : c.selector.Anticipates (c.request.withMore [z]) := hselector.withMore hdistinct
    have hrun : c.run ((z :: rest).map .mergeZone) =
        (c.met [z] c.selector).refreshed.run (rest.map .mergeZone) := by
      rw [← step_of_new hlive hnew]
      rfl
    rw [hrun]
    cases rest with
    | nil => exact ⟨c.selector, rfl, hmet, rfl⟩
    | cons y rest =>
      obtain ⟨s, hrules, hs, hlater⟩ :=
        ih (c := (c.met [z] c.selector).refreshed) hlive hmet.answer (List.cons_ne_nil _ _) hnodup
      have hrequest : (c.met [z] c.selector).refreshed.request.withMore (y :: rest) =
          c.request.withMore (z :: y :: rest) := by
        unfold SelectionRequest.withMore
        exact congrArg (SelectionRequest.mk · c.bars c.view c.limit) hzones.symm
      rw [hrequest] at hs
      rw [met_met] at hlater
      have hkept : (c.met [z] c.selector).refreshed.selector.rules = c.selector.rules :=
        Selector.rules_answer c.selector (c.request.withMore [z])
      exact ⟨s, hrules.trans hkept, hs, hlater⟩

/-- The selection, and the selector that made it. -/
def selected (c : Content) : Selection × Selector := (c.selection, c.selector)

/-- One by one or at once, in what is known. -/
theorem selected_alike (hzones : c.zones = []) (hfrozen : c.selector.frozen.zones = ∅)
    {batch arrivals : List Zone} (hne : batch ≠ []) (hids : (batch.map Zone.id).Nodup)
    (horder : arrivals.Perm batch) :
    Selector.AlikeButBands (c.run (arrivals.map .mergeZone)).selected
      (c.step (.setZones batch)).selected := by
  cases hlive : c.disposed with
  | true =>
    have hstep : c.step (.setZones batch) = c := if_pos hlive
    rw [run_of_disposed hlive, hstep]
    exact ⟨rfl, rfl, rfl, rfl⟩
  | false =>
    have hnone (r : SelectionRequest) : c.selector.Anticipates r :=
      Selector.anticipates_of_empty hfrozen
    have hsome : arrivals ≠ [] := by
      rintro rfl
      exact hne horder.nil_eq.symm
    have hall : (c.request.withMore arrivals).zones = arrivals := by
      change c.zones ++ arrivals = arrivals
      rw [hzones, List.nil_append]
    have hnodup : ((c.request.withMore arrivals).zones.map Zone.id).Nodup := by
      rw [hall]
      exact (horder.map Zone.id).nodup_iff.mpr hids
    obtain ⟨s, hrules, hs, hrun⟩ := exists_anticipating hlive (hnone _) hsome hnodup
    have hbatch : c.step (.setZones batch) = { c with zones := batch }.refreshed :=
      if_neg (by simp [hlive])
    have hreordered :
        (c.request.withMore arrivals).Reordered { c.request with zones := batch } :=
      ⟨by rwa [hall], rfl, rfl, rfl⟩
    have hdistinct : (c.request.withMore arrivals).Distinct :=
      hnodup.sublist (List.filter_sublist.map Zone.id)
    have halike := hs.answer_alike (hnone _) hrules
    rw [Selector.answer_eq_of_reordered hreordered hdistinct c.selector] at halike
    rw [hrun, hbatch]
    exact halike

end Content

namespace Layer

variable {σ : Type} [Surface σ]

/-- **One by one or at once.** A layer without zones whose selector has no geometry of zones is
given some zones with distinct identities: one after the other, in any order, or all in one
delivery. The zones shown, the reference price, all counts and the geometry of zones that is frozen
are the same in the end. -/
theorem one_by_one_eq_at_once (l : Layer σ) (hzones : l.zones = [])
    (hfrozen : l.selector.frozen.zones = ∅) {batch arrivals : List Zone} (hne : batch ≠ [])
    (hids : (batch.map Zone.id).Nodup) (horder : arrivals.Perm batch) :
    (l.run (arrivals.map .mergeZone)).selection.zones =
        (l.step (.setZones batch)).selection.zones ∧
      (l.run (arrivals.map .mergeZone)).selection.reference =
        (l.step (.setZones batch)).selection.reference ∧
      (l.run (arrivals.map .mergeZone)).selection.stats =
        (l.step (.setZones batch)).selection.stats ∧
      (l.run (arrivals.map .mergeZone)).selector.frozen.zones =
        (l.step (.setZones batch)).selector.frozen.zones := by
  have halike := Content.selected_alike (c := l.content) hzones hfrozen hne hids horder
  rw [← content_run, ← content_step] at halike
  exact ⟨halike.zones, halike.reference, halike.stats, halike.frozen⟩

/-- Two zones that overlap, and one between them whose bucket is not over. -/
def overlappingZones : List Zone :=
  [Selector.closedZone "a" 99.0 100.0,
    { Selector.closedZone "b" 100.0 101.0 with originTime := 900 },
    Selector.closedZone "c" 99.5 100.5]

/-- The third zone comes first and makes a band of its own, which the first one joins. -/
theorem one_by_one_eq_at_once_of_overlapping :
    let l := untouched.step (.setBars [⟨900, 100.0, 101.0, 99.0, 100.0, 1.0, true⟩])
    let one := l.run (overlappingZones.reverse.map .mergeZone)
    let all := l.step (.setZones overlappingZones)
    l.bars.reference? = some 100.0 ∧ overlappingZones.reverse ≠ overlappingZones ∧
      one.selection.zones = all.selection.zones ∧
      one.selection.reference = all.selection.reference ∧
      one.selection.stats = all.selection.stats ∧
      one.selector.frozen.zones = all.selector.frozen.zones := by
  intro l one all
  have hfrozen : l.selector.frozen.zones = ∅ :=
    Std.ExtTreeMap.isEmpty_iff.mp (by decide +kernel)
  exact ⟨by decide +kernel, by decide +kernel,
    one_by_one_eq_at_once l (by decide +kernel) hfrozen (List.cons_ne_nil _ _) (by decide +kernel)
      (List.reverse_perm _)⟩

end Layer

end ChartLayer
