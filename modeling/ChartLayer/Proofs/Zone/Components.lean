import ChartLayer.Proofs.Number.TotalOrder
import ChartLayer.Proofs.Zone.Envelope
import Mathlib.Logic.Relation

/-!
# Clusters are connected components

The sweep compares a zone with two things only, the last member of the open group and the highest
price of the group. Still it finds the connected components of all zones, where two zones are
connected if the gap between them is within the tolerance.

* `joinsGroup_eq`: the overlap decides nothing, because zones that overlap have no gap.
* `Sweeping`: what is known of an open group and the zones ahead of it, kept by both steps of a
  sweep (`Sweeping.join`, `Sweeping.next`); `Sweeping.induction` is the induction on its steps.
* `clusters_are_components`: the clusters are the components, whatever overlap is asked for. They
  lie farther apart than the tolerance, so that their envelopes are not clustered any further.
-/

namespace ChartLayer

open Quantity (larger smaller)

/-- Where a zone begins and ends. -/
def Zone.bounds (z : Zone) : Float × Float := (z.min, z.max)

/-- Where a cluster begins and ends. -/
def ZoneCluster.bounds (c : ZoneCluster) : Float × Float := (c.min, c.max)

/-- The gap between two bands: from the end of the one to the beginning of the other, which is the
one that begins later. -/
def gap (x y : Float × Float) : Float := if x.1 ≤ y.1 then y.1 - x.2 else x.1 - y.2

/-- Two bands with no more than `tolerance` between them. -/
def Near (tolerance : Float) (x y : Float × Float) : Prop := gap x y ≤ tolerance

/-- Two zones with a chain of zones from one to the other, each near the next. -/
def Linked (tolerance : Float) (zones : List Zone) : Zone → Zone → Prop :=
  Relation.ReflTransGen fun x y => x ∈ zones ∧ y ∈ zones ∧ Near tolerance x.bounds y.bounds

/-- Two zones are members of one cluster. -/
def Together (clusters : List ZoneCluster) (x y : Zone) : Prop :=
  ∃ c ∈ clusters, x ∈ c.members ∧ y ∈ c.members

/-- The second zone begins farther behind the end of the first than the tolerance. -/
def Beyond (tolerance : Float) (x y : Zone) : Prop := tolerance < y.min - x.max

/-- A zone with finite bounds in order. -/
def Zone.Proper (z : Zone) : Prop := z.Bounded ∧ z.min ≤ z.max

theorem Linked.mono {tolerance : Float} {zones others : List Zone} (hsub : zones ⊆ others)
    {x y : Zone} (h : Linked tolerance zones x y) : Linked tolerance others x y :=
  Relation.ReflTransGen.mono (fun _ _ hstep => ⟨hsub hstep.1, hsub hstep.2.1, hstep.2.2⟩) _ _ h

/-! ## Gaps -/

section Gaps
variable {tolerance : Float} {x y z : Zone}

/-- Between a price and one that is not below it there is no gap. -/
theorem sub_le_of_le {a b : Float} (ha : a.isFinite = true) (hb : b.isFinite = true)
    (htol : 0.0 ≤ tolerance) (h : a ≤ b) : a - b ≤ tolerance :=
  double_le_trans ((double_sub_nonpos_iff ha hb).mpr h) htol

/-- A zone that begins later and near the end of another is near it. -/
theorem near_of_sub_le (hx : x.Proper) (hy : y.Proper) (htol : 0.0 ≤ tolerance)
    (hle : x.min ≤ y.min) (h : y.min - x.max ≤ tolerance) :
    Near tolerance x.bounds y.bounds ∧ Near tolerance y.bounds x.bounds := by
  constructor
  · rw [Near, gap, Zone.bounds, Zone.bounds, if_pos hle]
    exact h
  · rw [Near, gap, Zone.bounds, Zone.bounds]
    split
    · exact sub_le_of_le hx.1.1 hy.1.2 htol (double_le_trans hle hy.2)
    · exact h

/-- A zone that begins beyond another is not near it. -/
theorem not_near_of_beyond (hx : x.Proper) (hy : y.Proper) (htol : 0.0 ≤ tolerance)
    (h : Beyond tolerance x y) :
    ¬Near tolerance x.bounds y.bounds ∧ ¬Near tolerance y.bounds x.bounds := by
  have hbehind : ¬y.min ≤ x.min := fun hle =>
    double_not_lt_of_le (sub_le_of_le hy.1.1 hx.1.2 htol (double_le_trans hle hx.2)) h
  have hle : x.min ≤ y.min :=
    (IsNumber.of_isFinite hx.1.1).le_of_not_le (IsNumber.of_isFinite hy.1.1) hbehind
  rw [Near, Near, gap, gap, Zone.bounds, Zone.bounds, if_pos hle, if_neg hbehind]
  exact ⟨fun hgap => double_not_lt_of_le hgap h, fun hgap => double_not_lt_of_le hgap h⟩

end Gaps

/-! ## The overlap -/

/-- A zone that shares any part with another begins within it. -/
theorem min_le_max_of_overlap {ratio : Float} {x z : Zone} (hx : x.Bounded) (hz : z.Bounded)
    (hratio : 0.0 < ratio) (h : ratio ≤ overlapRatio x.min x.max z.min z.max) :
    z.min ≤ x.max := by
  obtain ⟨-, hendx, -⟩ := smaller_spec (IsNumber.of_isFinite hx.2) (IsNumber.of_isFinite hz.2)
  obtain ⟨-, -, hstartz⟩ := larger_spec (IsNumber.of_isFinite hx.1) (IsNumber.of_isFinite hz.1)
  have hendfin := isFinite_smaller hx.2 hz.2
  have hstartfin := isFinite_larger hx.1 hz.1
  have hshared : ¬smaller x.max z.max - larger x.min z.min < 0.0 := by
    intro hneg
    rw [overlapRatio, if_pos hneg] at h
    exact double_not_lt_of_le h hratio
  have horder : larger x.min z.min ≤ smaller x.max z.max :=
    (IsNumber.of_isFinite hstartfin).le_of_not_lt (IsNumber.of_isFinite hendfin)
      (mt (double_sub_neg_iff hendfin hstartfin).mpr hshared)
  exact double_le_trans hstartz (double_le_trans horder hendx)

section Sweep
variable {rules : ClusterRules} {tolerance top : Float} {group rest : List Zone} {z : Zone}

theorem Tops.isFinite (h : Tops group top) (hgroup : ∀ y ∈ group, y.Proper) :
    top.isFinite = true := by
  obtain ⟨⟨y, hy, rfl⟩, -⟩ := h
  exact (hgroup y hy).1.2

/-- **The overlap decides nothing.** A zone joins the open group if its gap to it is within the
tolerance, and only then. -/
theorem joinsGroup_eq {last : Zone} (htops : Tops group top) (hgroup : ∀ y ∈ group, y.Proper)
    (hz : z.Proper) (hlast : last ∈ group) (htol : 0.0 ≤ rules.gapTolerance)
    (hratio : 0.0 < rules.overlapRatio) :
    joinsGroup rules last top z = decide (z.min - top ≤ rules.gapTolerance) := by
  rw [joinsGroup]
  by_cases hover : rules.overlapRatio ≤ overlapRatio last.min last.max z.min z.max
  · have hreach : z.min ≤ top :=
      double_le_trans (min_le_max_of_overlap (hgroup last hlast).1 hz.1 hratio hover)
        (htops.2 last hlast)
    rw [decide_eq_true (sub_le_of_le hz.1.1 (htops.isFinite hgroup) htol hreach), Bool.or_true]
  · rw [decide_eq_false hover, Bool.false_or]

/-! ## One step of the sweep -/

/-- What is known of the open group and of the zones ahead of it. -/
structure Sweeping (tolerance : Float) (group : List Zone) (top : Float) (ahead : List Zone) :
    Prop where
  tops : Tops group top
  proper : ∀ z ∈ group ++ ahead, z.Proper
  sorted : (group ++ ahead).Pairwise fun x y => x.min ≤ y.min
  linked : ∀ x ∈ group, ∀ y ∈ group, Linked tolerance group x y

theorem Sweeping.ofCons (hproper : ∀ y ∈ z :: rest, y.Proper)
    (hsorted : (z :: rest).Pairwise fun x y => x.min ≤ y.min) :
    Sweeping tolerance [z] (larger negativeInfinity z.max) rest where
  tops := tops_singleton (hproper z List.mem_cons_self).1
  proper := hproper
  sorted := hsorted
  linked x hx y hy := by
    rw [List.mem_singleton.mp hx, List.mem_singleton.mp hy]
    exact .refl

theorem Sweeping.group_proper (h : Sweeping tolerance group top rest) : ∀ y ∈ group, y.Proper :=
  fun y hy => h.proper y (List.mem_append_left rest hy)

theorem Sweeping.head_proper (h : Sweeping tolerance group top (z :: rest)) : z.Proper :=
  h.proper z (List.mem_append_right group List.mem_cons_self)

/-- The group is closed, and the next zone opens another. -/
theorem Sweeping.next (h : Sweeping tolerance group top (z :: rest)) :
    Sweeping tolerance [z] (larger negativeInfinity z.max) rest :=
  .ofCons (fun y hy => h.proper y (List.mem_append_right group hy))
    (List.pairwise_append.mp h.sorted).2.1

/-- A zone that joins the group is linked to the member that reaches farthest, and by it to all. -/
theorem Sweeping.join (h : Sweeping tolerance group top (z :: rest)) (htol : 0.0 ≤ tolerance)
    (hgap : z.min - top ≤ tolerance) :
    Sweeping tolerance (group ++ [z]) (larger top z.max) rest := by
  have hz := h.head_proper
  refine ⟨h.tops.snoc (fun y hy => (h.group_proper y hy).1) hz.1, ?_, ?_, ?_⟩
  · rw [List.append_assoc]
    exact h.proper
  · rw [List.append_assoc]
    exact h.sorted
  · obtain ⟨⟨farthest, hfar, rfl⟩, -⟩ := h.tops
    have hsub : group ⊆ group ++ [z] := List.subset_append_left group [z]
    have hzmem : z ∈ group ++ [z] := List.mem_append_right group (List.mem_singleton_self z)
    have hle : farthest.min ≤ z.min :=
      (List.pairwise_append.mp h.sorted).2.2 farthest hfar z List.mem_cons_self
    obtain ⟨hto, hback⟩ := near_of_sub_le (h.group_proper farthest hfar) hz htol hle hgap
    have hup : Linked tolerance (group ++ [z]) farthest z := .single ⟨hsub hfar, hzmem, hto⟩
    have hdown : Linked tolerance (group ++ [z]) z farthest := .single ⟨hzmem, hsub hfar, hback⟩
    intro x hx y hy
    rcases List.mem_append.mp hx with hx | hx <;> rcases List.mem_append.mp hy with hy | hy
    · exact (h.linked x hx y hy).mono hsub
    · rw [List.mem_singleton.mp hy]
      exact ((h.linked x hx farthest hfar).mono hsub).trans hup
    · rw [List.mem_singleton.mp hx]
      exact hdown.trans ((h.linked farthest hfar y hy).mono hsub)
    · rw [List.mem_singleton.mp hx, List.mem_singleton.mp hy]
      exact .refl

/-- What one step of the sweep does: the gap alone decides. -/
theorem Sweeping.sweep_cons (h : Sweeping rules.gapTolerance group top (z :: rest))
    (htol : 0.0 ≤ rules.gapTolerance) (hratio : 0.0 < rules.overlapRatio) :
    sweep rules group top (z :: rest) =
      if z.min - top ≤ rules.gapTolerance then sweep rules (group ++ [z]) (larger top z.max) rest
      else (closeGroup? group top).toList ++
        sweep rules [z] (larger negativeInfinity z.max) rest := by
  obtain ⟨⟨y, hy, -⟩, -⟩ := h.tops
  have hlast := List.getLast?_eq_some_getLast (List.ne_nil_of_mem hy)
  rw [sweep, hlast, Option.all_some, joinsGroup_eq h.tops h.group_proper h.head_proper
    (List.getLast_mem _) htol hratio]
  simp only [decide_eq_true_eq]

theorem Sweeping.closes (h : Sweeping tolerance group top rest) :
    ∃ c, closeGroup? group top = some c ∧ c.members = group := by
  obtain ⟨⟨y, hy, -⟩, -⟩ := h.tops
  cases group with
  | nil => cases hy
  | cons first more => exact closeGroup?_cons first more top

end Sweep

/-! ## The whole sweep -/

section Run
variable {rules : ClusterRules} {top : Float} {group ahead : List Zone}

/-- **Induction on a sweep.** What holds of the last group, and is kept when a zone joins the group
and when a group is closed before a zone, holds of every sweep and its clusters. -/
theorem Sweeping.induction {motive : List Zone → Float → List Zone → List ZoneCluster → Prop}
    (htol : 0.0 ≤ rules.gapTolerance) (hratio : 0.0 < rules.overlapRatio)
    (last : ∀ {group top c}, Sweeping rules.gapTolerance group top [] →
      closeGroup? group top = some c → c.members = group → motive group top [] [c])
    (join : ∀ {group top z rest clusters}, Sweeping rules.gapTolerance group top (z :: rest) →
      z.min - top ≤ rules.gapTolerance →
      motive (group ++ [z]) (larger top z.max) rest clusters →
      motive group top (z :: rest) clusters)
    (next : ∀ {group top z rest c clusters}, Sweeping rules.gapTolerance group top (z :: rest) →
      ¬z.min - top ≤ rules.gapTolerance → closeGroup? group top = some c →
      c.members = group → clusters.flatMap ZoneCluster.members = z :: rest →
      motive [z] (larger negativeInfinity z.max) rest clusters →
      motive group top (z :: rest) (c :: clusters))
    (h : Sweeping rules.gapTolerance group top ahead) :
    motive group top ahead (sweep rules group top ahead) := by
  obtain ⟨c, hc, hmembers⟩ := h.closes
  induction ahead generalizing group top c with
  | nil =>
    rw [sweep, hc, Option.toList_some]
    exact last h hc hmembers
  | cons z rest ih =>
    rw [h.sweep_cons htol hratio]
    split
    · next hgap =>
      obtain ⟨d, hd, hmembers'⟩ := (h.join htol hgap).closes
      exact join h hgap (ih (h.join htol hgap) d hd hmembers')
    · next hgap =>
      obtain ⟨d, hd, hmembers'⟩ := h.next.closes
      rw [hc, Option.toList_some, List.singleton_append]
      exact next h hgap hc hmembers (members_sweep rules [z] _ rest) (ih h.next d hd hmembers')

/-- The members of a cluster are linked by its own zones. -/
theorem linked_sweep (htol : 0.0 ≤ rules.gapTolerance) (hratio : 0.0 < rules.overlapRatio)
    (h : Sweeping rules.gapTolerance group top ahead) :
    ∀ c ∈ sweep rules group top ahead, ∀ x ∈ c.members, ∀ y ∈ c.members,
      Linked rules.gapTolerance c.members x y := by
  refine Sweeping.induction (motive := fun _ _ _ clusters => ∀ c ∈ clusters, ∀ x ∈ c.members,
    ∀ y ∈ c.members, Linked rules.gapTolerance c.members x y) htol hratio ?last ?join ?next h
  case last =>
    intro group top c h _ hmembers d hd
    rw [List.mem_singleton.mp hd, hmembers]
    exact h.linked
  case join => exact fun _ _ ih => ih
  case next =>
    intro group top z rest c clusters h _ _ hmembers _ ih d hd
    rcases List.mem_cons.mp hd with rfl | hd
    · rw [hmembers]
      exact h.linked
    · exact ih d hd

/-- Every member of the second cluster begins beyond every member of the first. -/
def FarApart (tolerance : Float) (c d : ZoneCluster) : Prop :=
  ∀ x ∈ c.members, ∀ y ∈ d.members, Beyond tolerance x y

theorem farApart_sweep (htol : 0.0 ≤ rules.gapTolerance) (hratio : 0.0 < rules.overlapRatio)
    (h : Sweeping rules.gapTolerance group top ahead) :
    (sweep rules group top ahead).Pairwise (FarApart rules.gapTolerance) := by
  refine Sweeping.induction (motive := fun _ _ _ clusters =>
    clusters.Pairwise (FarApart rules.gapTolerance)) htol hratio ?last ?join ?next h
  case last => exact fun _ _ _ => List.pairwise_singleton _ _
  case join => exact fun _ _ ih => ih
  case next =>
    intro group top z rest c clusters h hgap _ hmembers hall ih
    refine List.pairwise_cons.mpr ⟨fun d hd x hx y hy => ?_, ih⟩
    rw [hmembers] at hx
    have hyrest : y ∈ z :: rest := hall ▸ List.mem_flatMap.mpr ⟨d, hd, hy⟩
    have hz := h.head_proper
    have htop := h.tops.isFinite h.group_proper
    have hyproper := h.proper y (List.mem_append_right group hyrest)
    have hzy : z.min ≤ y.min := by
      rcases List.mem_cons.mp hyrest with rfl | hyrest
      · exact (IsNumber.of_isFinite hz.1.1).le_refl
      · exact (List.pairwise_cons.mp (List.pairwise_append.mp h.sorted).2.1).1 y hyrest
    have hfar : rules.gapTolerance < z.min - top :=
      (le_iff.mp htol).2.1.lt_of_not_le (rounds_sub hz.1.1 htop).number hgap
    exact double_lt_of_lt_of_le hfar (double_sub_le_sub hz.1.1 htop hyproper.1.1
      (h.group_proper x hx).1.2 hzy (h.tops.2 x hx))

/-- Two rules with one tolerance make the same clusters. -/
theorem sweep_congr {others : ClusterRules} (hsame : others.gapTolerance = rules.gapTolerance)
    (htol : 0.0 ≤ rules.gapTolerance) (hratio : 0.0 < rules.overlapRatio)
    (hratio' : 0.0 < others.overlapRatio) (h : Sweeping rules.gapTolerance group top ahead) :
    sweep others group top ahead = sweep rules group top ahead := by
  have hcons {group : List Zone} {top : Float} {z : Zone} {rest : List Zone}
      (h : Sweeping rules.gapTolerance group top (z :: rest)) :=
    Sweeping.sweep_cons (hsame ▸ h) (hsame ▸ htol) hratio'
  refine Sweeping.induction (motive := fun group top ahead clusters =>
    sweep others group top ahead = clusters) htol hratio ?last ?join ?next h
  case last =>
    intro group top c _ hc _
    rw [sweep, hc, Option.toList_some]
  case join =>
    intro group top z rest clusters h hgap ih
    rw [hcons h, hsame, if_pos hgap, ih]
  case next =>
    intro group top z rest c clusters h hgap hc _ _ ih
    rw [hcons h, hsame, if_neg hgap, hc, ih, Option.toList_some, List.singleton_append]

/-- Zones beyond those of the open group and beyond each other stay apart. -/
theorem members_sweep_of_beyond (htol : 0.0 ≤ rules.gapTolerance)
    (hratio : 0.0 < rules.overlapRatio) (h : Sweeping rules.gapTolerance group top ahead)
    (hgroup : ∀ x ∈ group, ∀ y ∈ ahead, Beyond rules.gapTolerance x y)
    (hahead : ahead.Pairwise (Beyond rules.gapTolerance)) :
    (sweep rules group top ahead).map ZoneCluster.members = group :: ahead.map ([·]) := by
  revert hgroup hahead
  refine Sweeping.induction (motive := fun group _ ahead clusters =>
    (∀ x ∈ group, ∀ y ∈ ahead, Beyond rules.gapTolerance x y) →
      ahead.Pairwise (Beyond rules.gapTolerance) →
        clusters.map ZoneCluster.members = group :: ahead.map ([·])) htol hratio ?last ?join ?next h
  case last =>
    intro group top c _ _ hmembers _ _
    rw [List.map_singleton, List.map_nil, hmembers]
  case join =>
    intro group top z rest clusters h hgap _ hgroup
    obtain ⟨⟨x, hx, rfl⟩, -⟩ := h.tops
    exact absurd (hgroup x hx z List.mem_cons_self) (double_not_lt_of_le hgap)
  case next =>
    intro group top z rest c clusters _ _ _ hmembers _ ih _ hahead
    obtain ⟨hz, hrest⟩ := List.pairwise_cons.mp hahead
    rw [List.map_cons, hmembers, List.map_cons, ih (fun x hx => ?_) hrest]
    rw [List.mem_singleton.mp hx]
    exact hz

end Run

/-! ## The clusters -/

section Clusters
variable {rules : ClusterRules} {zones : List Zone}

theorem sortByPrice_sorted (hproper : ∀ z ∈ zones, z.Proper) :
    (sortByPrice zones).Pairwise fun x y => x.min ≤ y.min := by
  refine (sortByPrice_pairwise zones).imp_of_mem ?_
  intro x y hx hy hle
  have hfin : ∀ z ∈ sortByPrice zones, IsNumber z.min := fun z hz =>
    IsNumber.of_isFinite (hproper z (mem_sortByPrice.mp hz)).1.1
  have hmin : (totalOrder x.min y.min).isLE = true := Ordering.isLE_left_of_isLE_then hle
  exact le_of_orderKey_le (hfin x hx) (hfin y hy) (Std.isLE_compare.mp hmin)

/-- A sweep of zones begins with the lowest of them. -/
theorem clustersOf_cases (rules : ClusterRules) (hproper : ∀ z ∈ zones, z.Proper) :
    (sortByPrice zones = [] ∧ clustersOf rules zones = []) ∨
      ∃ z rest, sortByPrice zones = z :: rest ∧
        clustersOf rules zones = sweep rules [z] (larger negativeInfinity z.max) rest ∧
        ∀ tolerance, Sweeping tolerance [z] (larger negativeInfinity z.max) rest := by
  have hsorted := sortByPrice_sorted hproper
  have hproper' : ∀ z ∈ sortByPrice zones, z.Proper := fun z hz =>
    hproper z (mem_sortByPrice.mp hz)
  rw [clustersOf]
  cases hlist : sortByPrice zones with
  | nil => exact Or.inl ⟨rfl, rfl⟩
  | cons z rest =>
    rw [hlist] at hsorted hproper'
    exact Or.inr ⟨z, rest, rfl, rfl, fun _ => .ofCons hproper' hsorted⟩

theorem members_subset {c : ZoneCluster} (hc : c ∈ clustersOf rules zones) : c.members ⊆ zones := by
  intro z hz
  rw [← mem_sortByPrice, ← members_clustersOf rules]
  exact List.mem_flatMap.mpr ⟨c, hc, hz⟩

theorem exists_cluster (rules : ClusterRules) {z : Zone} (hz : z ∈ zones) :
    ∃ c ∈ clustersOf rules zones, z ∈ c.members := by
  rw [← mem_sortByPrice, ← members_clustersOf rules] at hz
  exact List.mem_flatMap.mp hz

theorem linked_clustersOf (hproper : ∀ z ∈ zones, z.Proper) (htol : 0.0 ≤ rules.gapTolerance)
    (hratio : 0.0 < rules.overlapRatio) :
    ∀ c ∈ clustersOf rules zones, ∀ x ∈ c.members, ∀ y ∈ c.members,
      Linked rules.gapTolerance c.members x y := by
  rcases clustersOf_cases rules hproper with ⟨-, hnil⟩ | ⟨z, rest, -, hrun, hstart⟩
  · rw [hnil]
    exact fun _ h => nomatch h
  · rw [hrun]
    exact linked_sweep htol hratio (hstart _)

theorem farApart_clustersOf (hproper : ∀ z ∈ zones, z.Proper) (htol : 0.0 ≤ rules.gapTolerance)
    (hratio : 0.0 < rules.overlapRatio) :
    (clustersOf rules zones).Pairwise (FarApart rules.gapTolerance) := by
  rcases clustersOf_cases rules hproper with ⟨-, hnil⟩ | ⟨z, rest, -, hrun, hstart⟩
  · rw [hnil]
    exact .nil
  · rw [hrun]
    exact farApart_sweep htol hratio (hstart _)

/-- A zone near a member of a cluster is a member of it. -/
theorem mem_of_near (hproper : ∀ z ∈ zones, z.Proper) (htol : 0.0 ≤ rules.gapTolerance)
    (hratio : 0.0 < rules.overlapRatio) {c : ZoneCluster} (hc : c ∈ clustersOf rules zones)
    {x y : Zone} (hx : x ∈ c.members) (hy : y ∈ zones)
    (hnear : Near rules.gapTolerance x.bounds y.bounds) : y ∈ c.members := by
  obtain ⟨d, hd, hyd⟩ := exists_cluster rules hy
  by_contra hout
  have hne : c ≠ d := by
    rintro rfl
    exact hout hyd
  have hxproper := hproper x (members_subset hc hx)
  have hyproper := hproper y hy
  -- Whichever of the two clusters is lower, the zones are too far apart.
  have hsymm : Std.Symm fun c d =>
      FarApart rules.gapTolerance c d ∨ FarApart rules.gapTolerance d c := ⟨fun _ _ => Or.symm⟩
  have hpairs : (clustersOf rules zones).Pairwise fun c d =>
      FarApart rules.gapTolerance c d ∨ FarApart rules.gapTolerance d c :=
    (farApart_clustersOf hproper htol hratio).imp Or.inl
  rcases hpairs.forall hc hd hne with hfar | hfar
  · exact (not_near_of_beyond hxproper hyproper htol (hfar x hx y hyd)).1 hnear
  · exact (not_near_of_beyond hyproper hxproper htol (hfar y hyd x hx)).2 hnear

/-- **Components.** Two zones are in one cluster if and only if they are linked. -/
theorem together_iff_linked (hproper : ∀ z ∈ zones, z.Proper) (htol : 0.0 ≤ rules.gapTolerance)
    (hratio : 0.0 < rules.overlapRatio) {x y : Zone} (hx : x ∈ zones) :
    Together (clustersOf rules zones) x y ↔ Linked rules.gapTolerance zones x y := by
  constructor
  · rintro ⟨c, hc, hxc, hyc⟩
    exact (linked_clustersOf hproper htol hratio c hc x hxc y hyc).mono (members_subset hc)
  · intro hlinked
    obtain ⟨c, hc, hxc⟩ := exists_cluster rules hx
    refine ⟨c, hc, hxc, ?_⟩
    induction hlinked with
    | refl => exact hxc
    | tail _ hstep ih => exact mem_of_near hproper htol hratio hc ih hstep.2.1 hstep.2.2

/-- **Overlap.** The overlap asked for makes no difference. -/
theorem clustersOf_congr {others : ClusterRules} (hproper : ∀ z ∈ zones, z.Proper)
    (hsame : others.gapTolerance = rules.gapTolerance) (htol : 0.0 ≤ rules.gapTolerance)
    (hratio : 0.0 < rules.overlapRatio) (hratio' : 0.0 < others.overlapRatio) :
    clustersOf others zones = clustersOf rules zones := by
  rcases clustersOf_cases rules hproper with ⟨hempty, hnil⟩ | ⟨z, rest, hlist, hrun, hstart⟩
  · rw [hnil, clustersOf, hempty]
    rfl
  · rw [hrun, ← sweep_congr hsame htol hratio hratio' (hstart _), clustersOf, hlist]
    rfl

/-- **Distance.** Between the envelopes of two clusters there is more than the tolerance. -/
theorem lt_sub_of_clustersOf (hproper : ∀ z ∈ zones, z.Proper) (htol : 0.0 ≤ rules.gapTolerance)
    (hratio : 0.0 < rules.overlapRatio) :
    (clustersOf rules zones).Pairwise fun c d => rules.gapTolerance < d.min - c.max := by
  have hspans : ∀ c ∈ clustersOf rules zones, c.Spans :=
    spans_clustersOf fun z hz => (hproper z hz).1
  refine (farApart_clustersOf hproper htol hratio).imp_of_mem ?_
  intro c d hc hd hfar
  obtain ⟨⟨x, hx, hmax⟩, -⟩ := (hspans c hc).tops
  obtain ⟨⟨y, hy, hmin⟩, -⟩ := (hspans d hd).bottoms
  rw [hmax, hmin]
  exact hfar x hx y hy

/-- Zones that lie each beyond the one before it are clusters of their own. -/
theorem members_clustersOf_of_beyond (hproper : ∀ z ∈ zones, z.Proper)
    (htol : 0.0 ≤ rules.gapTolerance) (hratio : 0.0 < rules.overlapRatio)
    (hbeyond : (sortByPrice zones).Pairwise (Beyond rules.gapTolerance)) :
    (clustersOf rules zones).map ZoneCluster.members = (sortByPrice zones).map ([·]) := by
  rcases clustersOf_cases rules hproper with ⟨hempty, hnil⟩ | ⟨z, rest, hlist, hrun, hstart⟩
  · rw [hnil, hempty]
    rfl
  · rw [hlist] at hbeyond ⊢
    obtain ⟨hz, hrest⟩ := List.pairwise_cons.mp hbeyond
    rw [hrun, List.map_cons]
    refine members_sweep_of_beyond htol hratio (hstart _) (fun x hx => ?_) hrest
    rw [List.mem_singleton.mp hx]
    exact hz

/-- A zone in place of a cluster. -/
def ZoneCluster.envelope (c : ZoneCluster) : Zone :=
  { c.representative with min := c.min, max := c.max }

theorem ZoneCluster.bounds_envelope (c : ZoneCluster) : c.envelope.bounds = c.bounds := rfl

/-- The envelope of a cluster has finite bounds in order. -/
theorem proper_envelope (hproper : ∀ z ∈ zones, z.Proper) {c : ZoneCluster}
    (hc : c ∈ clustersOf rules zones) : c.envelope.Proper := by
  have hspan := spans_clustersOf (fun z hz => (hproper z hz).1) c hc
  obtain ⟨⟨x, hx, hmax⟩, hall⟩ := hspan.tops
  obtain ⟨⟨y, hy, hmin⟩, -⟩ := hspan.bottoms
  have hxproper := hproper x (members_subset hc hx)
  have hyproper := hproper y (members_subset hc hy)
  rw [Zone.Proper, Zone.Bounded, ZoneCluster.envelope, hmin]
  refine ⟨⟨hyproper.1.1, ?_⟩, double_le_trans hyproper.2 (hall y hy)⟩
  rw [hmax]
  exact hxproper.1.2

/-- **Envelopes.** Zones in place of the clusters, one for each, are not clustered any further. -/
theorem members_clustersOf_envelopes (hproper : ∀ z ∈ zones, z.Proper)
    (htol : 0.0 ≤ rules.gapTolerance) (hratio : 0.0 < rules.overlapRatio) {envelopes : List Zone}
    (hsame : (envelopes.map Zone.bounds).Perm ((clustersOf rules zones).map ZoneCluster.bounds)) :
    (clustersOf rules envelopes).map ZoneCluster.members =
      (sortByPrice envelopes).map ([·]) := by
  have henvelopes : ∀ e ∈ envelopes, e.Proper := by
    intro e he
    obtain ⟨c, hc, hbounds⟩ := List.mem_map.mp (hsame.mem_iff.mp (List.mem_map_of_mem he))
    have hcproper := proper_envelope hproper hc
    obtain ⟨hmin, hmax⟩ : c.min = e.min ∧ c.max = e.max := Prod.ext_iff.mp hbounds
    rwa [Zone.Proper, Zone.Bounded, ZoneCluster.envelope, hmin, hmax] at hcproper
  -- In whatever order they come, no two envelopes are near each other.
  have hclusters : ((clustersOf rules zones).map ZoneCluster.bounds).Pairwise fun p q =>
      ¬Near rules.gapTolerance p q ∧ ¬Near rules.gapTolerance q p := by
    refine List.pairwise_map.mpr ((lt_sub_of_clustersOf hproper htol hratio).imp_of_mem ?_)
    intro c d hc hd hfar
    have hnear :=
      not_near_of_beyond (proper_envelope hproper hc) (proper_envelope hproper hd) htol hfar
    rwa [ZoneCluster.bounds_envelope, ZoneCluster.bounds_envelope] at hnear
  have hperm : ((clustersOf rules zones).map ZoneCluster.bounds).Perm
      ((sortByPrice envelopes).map Zone.bounds) :=
    hsame.symm.trans ((sortByPrice_perm envelopes).symm.map Zone.bounds)
  have hsorted : ((sortByPrice envelopes).map Zone.bounds).Pairwise fun p q =>
      ¬Near rules.gapTolerance p q ∧ ¬Near rules.gapTolerance q p :=
    hperm.pairwise hclusters And.symm
  refine members_clustersOf_of_beyond henvelopes htol hratio ?_
  refine ((sortByPrice_sorted henvelopes).and (List.pairwise_map.mp hsorted)).imp_of_mem ?_
  rintro x y hx hy ⟨hle, hfar, -⟩
  have hxproper := henvelopes x (mem_sortByPrice.mp hx)
  have hyproper := henvelopes y (mem_sortByPrice.mp hy)
  refine (le_iff.mp htol).2.1.lt_of_not_le (rounds_sub hyproper.1.1 hxproper.1.2).number ?_
  intro hgap
  exact hfar (near_of_sub_le hxproper hyproper htol hle hgap).1

/-- **Clusters are connected components.** For zones with finite bounds in order, a tolerance that
is not below zero and an overlap above zero: two zones are in one cluster if and only if they are
linked by zones with gaps within the tolerance; the clusters are the same for every overlap above
zero; each lies farther above the one before it than the tolerance; and zones in place of the
clusters, one for each, are not clustered any further. -/
theorem clusters_are_components (rules : ClusterRules) (zones : List Zone)
    (hproper : ∀ z ∈ zones, z.Proper) (htol : 0.0 ≤ rules.gapTolerance)
    (hratio : 0.0 < rules.overlapRatio) :
    (∀ x ∈ zones, ∀ y ∈ zones,
        Together (clustersOf rules zones) x y ↔ Linked rules.gapTolerance zones x y)
      ∧ (∀ ratio, 0.0 < ratio →
        clustersOf { rules with overlapRatio := ratio } zones = clustersOf rules zones)
      ∧ (clustersOf rules zones).Pairwise (fun c d => rules.gapTolerance < d.min - c.max)
      ∧ ∀ envelopes : List Zone,
        (envelopes.map Zone.bounds).Perm ((clustersOf rules zones).map ZoneCluster.bounds) →
          (clustersOf rules envelopes).map ZoneCluster.members =
            (sortByPrice envelopes).map ([·]) :=
  ⟨fun _ hx _ _ => together_iff_linked hproper htol hratio hx,
    fun _ hratio' => clustersOf_congr hproper rfl htol hratio hratio',
    lt_sub_of_clustersOf hproper htol hratio,
    fun _ hsame => members_clustersOf_envelopes hproper htol hratio hsame⟩

end Clusters

/-! ## A wide zone -/

instance (tolerance : Float) (x y : Float × Float) : Decidable (Near tolerance x y) :=
  inferInstanceAs (Decidable (_ ≤ _))

instance (z : Zone) : Decidable z.Proper := inferInstanceAs (Decidable ((_ ∧ _) ∧ _))

/-- A band that differs from others in its bounds and its id. -/
def bandZone (id : String) (low high : Float) : Zone where
  id := id
  min := low
  max := high
  direction := .bullish
  kind := .demand
  role := .entry
  state := .fresh
  score := 0.0
  timeframe := ⟨14400, by decide⟩
  originTime := 0

/-- The second band lies within the first, which reaches close to the third. -/
def nestedZones : List Zone :=
  [bandZone "wide" 1.0 10.0, bandZone "nested" 2.0 3.0, bandZone "late" 10.25 12.0]

/-- The nested zone and the late one are in one cluster, though far from each other. -/
theorem components_of_nested_zones :
    let rules : ClusterRules := ⟨0.5, 0.5⟩
    (∀ z ∈ nestedZones, z.Proper) ∧ 0.0 ≤ rules.gapTolerance ∧ 0.0 < rules.overlapRatio ∧
      ¬Near rules.gapTolerance (2.0, 3.0) (10.25, 12.0) ∧
      Together (clustersOf rules nestedZones) (bandZone "nested" 2.0 3.0)
        (bandZone "late" 10.25 12.0) := by
  intro rules
  have hproper : ∀ z ∈ nestedZones, z.Proper := by decide +kernel
  have htol : 0.0 ≤ rules.gapTolerance := by decide +kernel
  have hratio : 0.0 < rules.overlapRatio := by decide +kernel
  have hwide : bandZone "wide" 1.0 10.0 ∈ nestedZones := List.mem_cons_self
  have hnested : bandZone "nested" 2.0 3.0 ∈ nestedZones :=
    List.mem_cons_of_mem _ List.mem_cons_self
  have hlate : bandZone "late" 10.25 12.0 ∈ nestedZones :=
    List.mem_cons_of_mem _ (List.mem_cons_of_mem _ List.mem_cons_self)
  have hlinked : Linked rules.gapTolerance nestedZones (bandZone "nested" 2.0 3.0)
      (bandZone "late" 10.25 12.0) :=
    .tail (.single ⟨hnested, hwide, by decide +kernel⟩) ⟨hwide, hlate, by decide +kernel⟩
  have hcomponents := (clusters_are_components rules nestedZones hproper htol hratio).1
  exact ⟨hproper, htol, hratio, by decide +kernel, (hcomponents _ hnested _ hlate).mpr hlinked⟩

end ChartLayer
