import ChartLayer.Proofs.Number.Units
import ChartLayer.Proofs.Zone.Sweep

/-!
# A cluster is the envelope of its zones

The sweep that groups zones carries the highest price of the open group along and looks for the
lowest one when it closes. For zones with finite bounds both are bounds of members, and none of the
members reaches beyond them (`spans_clustersOf`).
-/

namespace ChartLayer

open Quantity (larger smaller)

/-! ## Groups -/

/-- Both bounds are finite. -/
def Zone.Bounded (z : Zone) : Prop := z.min.isFinite = true ∧ z.max.isFinite = true

/-- `low` is the lowest price of the zones: one of them begins there, and none below. -/
def Bottoms (zones : List Zone) (low : Float) : Prop :=
  (∃ z ∈ zones, low = z.min) ∧ ∀ z ∈ zones, low ≤ z.min

/-- `top` is the highest price of the zones: one of them ends there, and none above. -/
def Tops (zones : List Zone) (top : Float) : Prop :=
  (∃ z ∈ zones, top = z.max) ∧ ∀ z ∈ zones, z.max ≤ top

/-- A cluster reaches from the lowest price of its members to the highest. -/
structure ZoneCluster.Spans (c : ZoneCluster) : Prop where
  bottoms : Bottoms c.members c.min
  tops : Tops c.members c.max

theorem tops_singleton {z : Zone} (hz : z.Bounded) : Tops [z] (larger negativeInfinity z.max) := by
  have hlt := negativeInfinity_lt hz.2
  have hle := larger_spec (lt_iff.mp hlt).1 (IsNumber.of_isFinite hz.2)
  have heq : larger negativeInfinity z.max = z.max := by
    rcases hle.1 with h | h
    · exfalso
      have hback := hle.2.2
      rw [h, le_iff] at hback
      rw [lt_iff] at hlt
      omega
    · exact h
  refine ⟨⟨z, List.mem_singleton_self z, heq⟩, ?_⟩
  intro y hy
  rw [List.mem_singleton.mp hy]
  exact hle.2.2

theorem Tops.snoc {group : List Zone} {top : Float} (h : Tops group top) {z : Zone}
    (hgroup : ∀ y ∈ group, y.Bounded) (hz : z.Bounded) :
    Tops (group ++ [z]) (larger top z.max) := by
  obtain ⟨⟨y, hy, rfl⟩, hle⟩ := h
  obtain ⟨heq, htop, hmax⟩ :=
    larger_spec (IsNumber.of_isFinite (hgroup y hy).2) (IsNumber.of_isFinite hz.2)
  constructor
  · rcases heq with heq | heq
    · exact ⟨y, List.mem_append_left [z] hy, heq⟩
    · exact ⟨z, List.mem_append_right group (List.mem_singleton_self z), heq⟩
  · intro x hx
    rcases List.mem_append.mp hx with hx | hx
    · exact double_le_trans (hle x hx) htop
    · rw [List.mem_singleton.mp hx]
      exact hmax

/-- Going through the zones leaves the lowest price, or where the search began. -/
theorem foldl_smaller {group : List Zone} {low : Float} (hlow : IsNumber low)
    (hgroup : ∀ y ∈ group, y.Bounded) :
    let lowest := group.foldl (fun low z => smaller low z.min) low
    (lowest = low ∨ ∃ z ∈ group, lowest = z.min) ∧ lowest ≤ low ∧ ∀ z ∈ group, lowest ≤ z.min := by
  induction group generalizing low with
  | nil => exact ⟨Or.inl rfl, hlow.le_refl, fun _ h => (nomatch h)⟩
  | cons z rest ih =>
    obtain ⟨heq, hlelow, hlemin⟩ :=
      smaller_spec hlow (IsNumber.of_isFinite (hgroup z List.mem_cons_self).1)
    obtain ⟨hfrom, hle, hall⟩ := ih (le_iff.mp hlelow).1
      fun y hy => hgroup y (List.mem_cons_of_mem z hy)
    rw [List.foldl_cons]
    refine ⟨?_, double_le_trans hle hlelow, ?_⟩
    · rcases hfrom with hfrom | ⟨y, hy, hfrom⟩
      · rcases heq with heq | heq
        · exact Or.inl (hfrom.trans heq)
        · exact Or.inr ⟨z, List.mem_cons_self, hfrom.trans heq⟩
      · exact Or.inr ⟨y, List.mem_cons_of_mem z hy, hfrom⟩
    · intro y hy
      rcases List.mem_cons.mp hy with rfl | hy
      · exact double_le_trans hle hlemin
      · exact hall y hy

/-- The search for the lowest price begins above all of them. -/
theorem bottoms_foldl {z : Zone} {rest : List Zone} (hgroup : ∀ y ∈ z :: rest, y.Bounded) :
    Bottoms (z :: rest)
      ((z :: rest).foldl (fun low z => smaller low z.min) positiveInfinity) := by
  have hlt := lt_positiveInfinity (hgroup z List.mem_cons_self).1
  obtain ⟨hfrom, -, hall⟩ := foldl_smaller (lt_iff.mp hlt).2.1 hgroup
  refine ⟨?_, hall⟩
  rcases hfrom with hfrom | hfrom
  · exfalso
    have hback := hall z List.mem_cons_self
    rw [hfrom, le_iff] at hback
    rw [lt_iff] at hlt
    omega
  · exact hfrom

/-! ## The sweep -/

theorem spans_closeGroup? {group : List Zone} {top : Float} {c : ZoneCluster}
    (hgroup : ∀ y ∈ group, y.Bounded) (htop : Tops group top)
    (h : closeGroup? group top = some c) : c.Spans := by
  cases group with
  | nil => cases h
  | cons z rest =>
    obtain ⟨-, hmembers, -, hmin, hmax⟩ := closeGroup?_eq_some h
    constructor
    · rw [hmembers, hmin]
      exact bottoms_foldl hgroup
    · rw [hmembers, hmax]
      exact htop

/-- What the sweep knows of the open group: nothing is in it yet, or its highest price. -/
def KnowsTop (group : List Zone) (top : Float) : Prop :=
  (group = [] ∧ top = negativeInfinity) ∨ Tops group top

theorem KnowsTop.snoc {group : List Zone} {top : Float} (h : KnowsTop group top) {z : Zone}
    (hgroup : ∀ y ∈ group, y.Bounded) (hz : z.Bounded) :
    KnowsTop (group ++ [z]) (larger top z.max) := by
  rcases h with ⟨rfl, rfl⟩ | h
  · exact Or.inr (tops_singleton hz)
  · exact Or.inr (h.snoc hgroup hz)

theorem KnowsTop.spans {group : List Zone} {top : Float} (h : KnowsTop group top)
    (hgroup : ∀ y ∈ group, y.Bounded) :
    ∀ c ∈ (closeGroup? group top).toList, c.Spans := by
  intro c hc
  rcases h with ⟨rfl, rfl⟩ | h
  · cases hc
  · exact spans_closeGroup? hgroup h (Option.mem_toList.mp hc)

/-- **The sweep.** Every cluster that it closes reaches from the lowest to the highest price of its
members. -/
theorem spans_sweep {rules : ClusterRules} {group : List Zone} {top : Float} {zones : List Zone}
    (htop : KnowsTop group top) (hgroup : ∀ y ∈ group, y.Bounded) (hzones : ∀ y ∈ zones, y.Bounded) :
    ∀ c ∈ sweep rules group top zones, c.Spans := by
  fun_induction sweep rules group top zones with
  | case1 group top => exact htop.spans hgroup
  | case2 group top z rest _ ih =>
    have hz := hzones z List.mem_cons_self
    refine ih (htop.snoc hgroup hz) ?_ fun y hy => hzones y (List.mem_cons_of_mem z hy)
    intro y hy
    rcases List.mem_append.mp hy with hy | hy
    · exact hgroup y hy
    · rw [List.mem_singleton.mp hy]
      exact hz
  | case3 group top z rest _ ih =>
    have hz := hzones z List.mem_cons_self
    intro c hc
    rcases List.mem_append.mp hc with hc | hc
    · exact htop.spans hgroup c hc
    · refine ih (Or.inr (tops_singleton hz)) ?_ (fun y hy => hzones y (List.mem_cons_of_mem z hy)) c hc
      intro y hy
      rw [List.mem_singleton.mp hy]
      exact hz

/-- **Envelopes.** The clusters of zones with finite bounds span their members. -/
theorem spans_clustersOf {rules : ClusterRules} {zones : List Zone} (h : ∀ z ∈ zones, z.Bounded) :
    ∀ c ∈ clustersOf rules zones, c.Spans :=
  spans_sweep (Or.inl ⟨rfl, rfl⟩) (fun _ h => (nomatch h))
    fun z hz => h z (mem_sortByPrice.mp hz)

end ChartLayer
