import ChartLayer.Proofs.Zone.Candidates
import ChartLayer.Proofs.Zone.Cleaning
import ChartLayer.Proofs.Zone.View

/-!
# Who survives of a repeated identity

Of the zones with one identity the best one is kept, and of equally good ones the first. Equally
good zones agree in all that the orders compare (`survivalOrder_eq_iff`), not in their direction,
kind, timeframe, times and reasons. So the order in which zones are delivered decides between
zones that differ in nothing else, and only between these.

* `mem_uniqueById`: the zone kept is the survivor of its identity, one of the best.
* `uniqueById_eq_map`: in another order each zone kept has one in its place that is as good.
* `survivors_up_to_ties`: the order makes no difference just if no identity has two best zones.
-/

namespace ChartLayer

/-- Zones that agree in all that candidates and prices are compared by. -/
structure Zone.Ties (a b : Zone) : Prop where
  id : a.id = b.id
  state : a.state = b.state
  role : a.role = b.role
  strength : a.strength = b.strength
  confidence : a.confidence = b.confidence
  score : a.score = b.score
  min : a.min = b.min
  max : a.max = b.max

/-- The order in which zones of one identity are preferred. -/
def survivalOrder (a b : Zone) : Ordering := (candidateOrder a b).then (priceOrder a b)

instance : Std.TransCmp survivalOrder :=
  inferInstanceAs (Std.TransCmp (compareLex candidateOrder priceOrder))

/-- A zone that no other of its identity comes before. -/
def IsBestOfId (zones : List Zone) (z : Zone) : Prop :=
  z ∈ zones ∧ ∀ y ∈ zones, y.id = z.id → (survivalOrder z y).isLE = true

variable {zones others : List Zone} {a b z : Zone}

/-! ## Ties -/

theorem largestFirst_eq_iff {x y : Option Float} : largestFirst x y = .eq ↔ x = y := by
  cases x with
  | none => cases y <;> simp [largestFirst]
  | some x =>
    cases y with
    | none => simp [largestFirst]
    | some y => rw [largestFirst, totalOrder_eq_iff, Option.some_inj, eq_comm]

theorem freshness_inj {s t : ZoneState} (h : s.freshness = t.freshness) : s = t := by
  cases s <;> cases t <;> first | rfl | cases h

theorem rank_inj {r s : ZoneRole} (h : r.rank = s.rank) : r = s := by
  cases r <;> cases s <;> first | rfl | cases h

theorem Zone.Ties.widthKey_eq (h : a.Ties b) : widthKey a = widthKey b := by
  have hwidth : a.width = b.width := by rw [Zone.width, Zone.width, h.min, h.max]
  rw [widthKey, widthKey, hwidth, h.min, h.max]

/-- **Ties.** Two zones are equally good just if they agree in all that is compared. -/
theorem survivalOrder_eq_iff : survivalOrder a b = .eq ↔ a.Ties b := by
  simp only [survivalOrder, candidateOrder, priceOrder, Ordering.then_eq_eq,
    Std.LawfulEqOrd.compare_eq_iff_eq, largestFirst_eq_iff, totalOrder_eq_iff]
  constructor
  · rintro ⟨⟨hstate, hrole, hstrength, hconfidence, hscore, -, hid⟩, hmin, hmax, -⟩
    exact ⟨hid, (freshness_inj hstate).symm, (rank_inj hrole).symm, hstrength, hconfidence,
      hscore.symm, hmin, hmax⟩
  · intro h
    exact ⟨⟨by rw [h.state], by rw [h.role], h.strength, h.confidence, h.score.symm,
      h.widthKey_eq, h.id⟩, h.min, h.max, h.id⟩

theorem Zone.Ties.priceOrder_eq {c d : Zone} (hab : a.Ties b) (hcd : c.Ties d) :
    priceOrder a c = priceOrder b d := by
  simp only [priceOrder, hab.id, hab.min, hab.max, hcd.id, hcd.min, hcd.max]

/-! ## The survivor of an identity -/

/-- What survives is not behind any of the zones that it is chosen from. -/
theorem isLE_of_survivor? (h : survivor? zones = some z) :
    ∀ y ∈ zones, (survivalOrder z y).isLE = true := by
  cases zones with
  | nil => cases h
  | cons first rest =>
    simp only [survivor?, Option.some.injEq] at h
    rw [← h]
    apply foldl_choice_isLE
    intro first second
    unfold better
    split
    · next hlt => exact ⟨by rw [survivalOrder, hlt]; rfl, Std.ReflCmp.isLE_rfl⟩
    · next hnot =>
      have hback : ¬survivalOrder second first = .lt := hnot
      exact ⟨Std.ReflCmp.isLE_rfl, Ordering.isLE_iff_ne_gt.mpr fun hgt =>
        hback (Std.OrientedCmp.gt_iff_lt.mp hgt)⟩

/-- The first of the best survives. -/
theorem foldl_better_of_best {first : Zone} {rest : List Zone}
    (h : ∀ y ∈ rest, (survivalOrder first y).isLE = true) : rest.foldl better first = first := by
  induction rest with
  | nil => rfl
  | cons next rest ih =>
    obtain ⟨hnext, hrest⟩ := List.forall_mem_cons.mp h
    have hnot : ¬survivalOrder next first = .lt := fun hlt =>
      Ordering.isLE_iff_ne_gt.mp hnext (Std.OrientedCmp.gt_iff_lt.mpr hlt)
    have hkept : better first next = first := if_neg hnot
    rw [List.foldl_cons, hkept]
    exact ih hrest

/-- **The first or a better one.** What survives is the first zone, or it comes before the first. -/
theorem survivor?_cons {first : Zone} {rest : List Zone} (h : survivor? (first :: rest) = some z) :
    z = first ∨ (z ∈ rest ∧ survivalOrder z first = .lt) := by
  by_cases hbest : ∀ y ∈ rest, (survivalOrder first y).isLE = true
  · rw [survivor?, foldl_better_of_best hbest, Option.some.injEq] at h
    exact Or.inl h.symm
  · obtain ⟨y, hy, hnot⟩ : ∃ y ∈ rest, ¬(survivalOrder first y).isLE = true := by simpa using hbest
    have hlt : survivalOrder y first = .lt :=
      Std.OrientedCmp.gt_iff_lt.mp (Ordering.isGT_iff_eq_gt.mp (by simpa using hnot))
    have hbefore : survivalOrder z first = .lt :=
      Std.TransCmp.lt_of_isLE_of_lt (isLE_of_survivor? h y (List.mem_cons_of_mem _ hy)) hlt
    refine Or.inr ⟨(List.mem_cons.mp (mem_of_survivor? h)).resolve_left ?_, hbefore⟩
    rintro rfl
    cases hbefore.symm.trans Std.ReflCmp.compare_self

/-- The zones kept are the survivors of their identities. -/
theorem mem_uniqueById : z ∈ uniqueById zones ↔
    survivor? (zones.filter fun y => y.id = z.id) = some z := by
  rw [(uniqueById_perm_keptZones zones).mem_iff, mem_keptZones, getElem?_bestById]

theorem isBestOfId_of_mem (hz : z ∈ uniqueById zones) : IsBestOfId zones z := by
  refine ⟨mem_of_mem_uniqueById hz, fun y hy hid => ?_⟩
  exact isLE_of_survivor? (mem_uniqueById.mp hz) y (by simp [hy, hid])

/-- Of one identity all the best are equally good. -/
theorem IsBestOfId.ties (ha : IsBestOfId zones a) (hb : IsBestOfId zones b) (hid : a.id = b.id) :
    a.Ties b :=
  survivalOrder_eq_iff.mp
    (Std.OrientedCmp.isLE_antisymm (ha.2 b hb.1 hid.symm) (hb.2 a ha.1 hid))

theorem IsBestOfId.of_perm (h : IsBestOfId zones z) (hperm : zones.Perm others) :
    IsBestOfId others z :=
  ⟨hperm.mem_iff.mp h.1, fun y hy => h.2 y (hperm.mem_iff.mpr hy)⟩

/-- A best zone that comes first survives. -/
theorem mem_uniqueById_cons (h : IsBestOfId (z :: zones) z) : z ∈ uniqueById (z :: zones) := by
  rw [mem_uniqueById, List.filter_cons_of_pos (by simp), survivor?, foldl_better_of_best]
  intro y hy
  obtain ⟨hmem, hid⟩ := List.mem_filter.mp hy
  exact h.2 y (List.mem_cons_of_mem z hmem) (of_decide_eq_true hid)

/-! ## Another order -/

/-- What is kept, from another delivery, of the identity of a zone. -/
def inPlaceOf (others : List Zone) (z : Zone) : Zone := ((bestById others)[z.id]?).getD z

theorem inPlaceOf_of_mem {y : Zone} (hy : y ∈ uniqueById others) (hid : y.id = z.id) :
    inPlaceOf others z = y := by
  rw [(uniqueById_perm_keptZones others).mem_iff, mem_keptZones, hid] at hy
  rw [inPlaceOf, hy, Option.getD_some]

/-- In another order an identity has a survivor as well. -/
theorem exists_inPlaceOf (hperm : zones.Perm others) (hz : z ∈ uniqueById zones) :
    ∃ y ∈ uniqueById others, inPlaceOf others z = y ∧ z.Ties y := by
  have hdelivered : z.id ∈ (uniqueById others).map Zone.id :=
    mem_ids_uniqueById.mpr ⟨z, hperm.mem_iff.mp (mem_of_mem_uniqueById hz), rfl⟩
  obtain ⟨y, hy, hid⟩ := List.mem_map.mp hdelivered
  have hbest := (isBestOfId_of_mem hy).of_perm hperm.symm
  exact ⟨y, hy, inPlaceOf_of_mem hy hid, (isBestOfId_of_mem hz).ties hbest hid.symm⟩

/-- **Another order.** Each zone kept gives way to one that is as good, in the same place. -/
theorem uniqueById_eq_map (hperm : zones.Perm others) :
    uniqueById others = (uniqueById zones).map (inPlaceOf others) := by
  have hties : ∀ z ∈ uniqueById zones, z.Ties (inPlaceOf others z) := by
    intro z hz
    obtain ⟨y, -, rfl, htie⟩ := exists_inPlaceOf hperm hz
    exact htie
  have hids : ((uniqueById zones).map (inPlaceOf others)).map Zone.id =
      (uniqueById zones).map Zone.id := by
    rw [List.map_map]
    exact List.map_congr_left fun z hz => (hties z hz).id.symm
  have hnodup := nodup_uniqueById zones
  rw [← hids] at hnodup
  have hmem : ((uniqueById zones).map (inPlaceOf others)).Perm (uniqueById others) := by
    rw [List.perm_ext_iff_of_nodup hnodup.of_map (nodup_uniqueById others).of_map]
    intro y
    constructor
    · intro hy
      obtain ⟨z, hz, rfl⟩ := List.mem_map.mp hy
      obtain ⟨y, hy, rfl, -⟩ := exists_inPlaceOf hperm hz
      exact hy
    · intro hy
      obtain ⟨z, hz, -, htie⟩ := exists_inPlaceOf hperm.symm hy
      exact List.mem_map.mpr ⟨z, hz, inPlaceOf_of_mem hy htie.id⟩
  have hsorted : ((uniqueById zones).map (inPlaceOf others)).Pairwise fun a b =>
      (priceOrder a b).isLE := by
    refine List.pairwise_map.mpr ((sortByPrice_pairwise _).imp_of_mem fun {a b} ha hb hle => ?_)
    rwa [← (hties a ha).priceOrder_eq (hties b hb)]
  refine (hmem.eq_of_pairwise ?_ hsorted (sortByPrice_pairwise _)).symm
  intro a b ha hb hab hba
  exact List.inj_on_of_nodup_map hnodup ha (hmem.mem_iff.mpr hb) (id_eq_of_isLE hab hba)

/-! ## When the order makes no difference -/

theorem forall₂_ties_of_perm (hperm : zones.Perm others) :
    List.Forall₂ Zone.Ties (uniqueById zones) (uniqueById others) := by
  rw [uniqueById_eq_map hperm, List.forall₂_map_right_iff, List.forall₂_same]
  intro z hz
  obtain ⟨y, -, rfl, htie⟩ := exists_inPlaceOf hperm hz
  exact htie

/-- With one best zone for each identity there is nothing to decide. -/
theorem uniqueById_eq_of_perm (hperm : zones.Perm others)
    (h : ∀ a b, IsBestOfId zones a → IsBestOfId zones b → a.id = b.id → a = b) :
    uniqueById others = uniqueById zones := by
  rw [uniqueById_eq_map hperm]
  nth_rewrite 2 [← List.map_id (uniqueById zones)]
  refine List.map_congr_left fun z hz => ?_
  obtain ⟨y, hy, rfl, htie⟩ := exists_inPlaceOf hperm hz
  exact (h z _ (isBestOfId_of_mem hz) ((isBestOfId_of_mem hy).of_perm hperm.symm) htie.id).symm

/-- Each best zone survives in some order. -/
theorem exists_perm_mem (h : IsBestOfId zones z) :
    ∃ others, zones.Perm others ∧ z ∈ uniqueById others :=
  have hperm : zones.Perm (z :: zones.erase z) := List.perm_cons_erase h.1
  ⟨_, hperm, mem_uniqueById_cons (h.of_perm hperm)⟩

/-- **The order of delivery.** Whatever order the zones come in, as many are dropped, and each one
kept agrees in all that is compared with the one in its place. They are the same zones in every
order just if no identity has two best zones. -/
theorem survivors_up_to_ties (zones : List Zone) :
    (∀ others, zones.Perm others →
        List.Forall₂ Zone.Ties (uniqueById zones) (uniqueById others) ∧
          others.length - (uniqueById others).length =
            zones.length - (uniqueById zones).length)
      ∧ ((∀ others, zones.Perm others → uniqueById others = uniqueById zones) ↔
        ∀ a b, IsBestOfId zones a → IsBestOfId zones b → a.id = b.id → a = b) := by
  refine ⟨fun others hperm => ?_, fun hsame a b ha hb hid => ?_, fun h others hperm => ?_⟩
  · have hties := forall₂_ties_of_perm hperm
    exact ⟨hties, by rw [hperm.length_eq, hties.length_eq]⟩
  · obtain ⟨first, hfirst, hmem⟩ := exists_perm_mem ha
    obtain ⟨second, hsecond, hmem'⟩ := exists_perm_mem hb
    rw [hsame first hfirst] at hmem
    rw [hsame second hsecond] at hmem'
    exact List.inj_on_of_nodup_map (nodup_uniqueById zones) hmem hmem' hid
  · exact uniqueById_eq_of_perm hperm h

/-! ## Two zones that differ in their kind -/

/-- A zone that comes again as another kind. -/
def firstKind : Zone := plainZone "dup" 100.0 101.0

def secondKind : Zone := { firstKind with kind := .supply }

/-- **The first one wins.** Of two zones that differ in their kind alone, the one delivered first is
kept. -/
theorem reordered_kinds_differ :
    [firstKind, secondKind].Perm [secondKind, firstKind] ∧
      (∀ z ∈ [firstKind, secondKind], z.hasFiniteBounds = true) ∧
      uniqueById [firstKind, secondKind] ≠ uniqueById [secondKind, firstKind] := by
  refine ⟨.swap secondKind firstKind [], by decide +kernel, fun hsame => ?_⟩
  have hfirst : firstKind ∈ uniqueById [firstKind, secondKind] :=
    mem_uniqueById.mpr (by decide +kernel)
  have hsecond : secondKind ∈ uniqueById [secondKind, firstKind] :=
    mem_uniqueById.mpr (by decide +kernel)
  rw [hsame] at hfirst
  have heq : firstKind = secondKind :=
    List.inj_on_of_nodup_map (nodup_uniqueById _) hfirst hsecond rfl
  exact absurd heq (by decide)

end ChartLayer
