import ChartLayer.Proofs.Number.Units
import ChartLayer.Proofs.Zone.Envelope
import ChartLayer.Proofs.Zone.Nearest
import ChartLayer.Proofs.Zone.View

/-!
# What a coarse view shows

A coarse view shows its own zones, the finer ones nested in them, and of the other finer ones the
nearest on each side of the reference. The code goes through lists of coarse, nested and loose
zones and looks the kept ones up by id; `mem_refineHighView` says of each zone by itself whether it
is shown. Narrowing again changes nothing, because the coarse zones are all there, so that nested
zones stay nested and loose ones loose, and the nearest of a side is nearest among fewer.
-/

namespace ChartLayer

namespace ViewFocus

/-- The zone is as coarse as the view, or coarser. -/
def IsCoarse (focus : ViewFocus) (z : Zone) : Prop := focus.view.secs ≤ z.timeframe.secs

/-- Some coarse zone holds the zone, but for the tolerance. -/
def IsNested (focus : ViewFocus) (zones : List Zone) (z : Zone) : Prop :=
  ∃ c ∈ zones, focus.IsCoarse c ∧ nestedIn focus.tolerance z c = true

instance (focus : ViewFocus) (z : Zone) : Decidable (focus.IsCoarse z) :=
  inferInstanceAs (Decidable (_ ≤ _))

instance (focus : ViewFocus) (zones : List Zone) (z : Zone) :
    Decidable (focus.IsNested zones z) :=
  inferInstanceAs (Decidable (∃ c ∈ zones, _ ∧ _))

/-- The finer zones that are nested in none, on one side: with the middle not below the reference,
or all others. -/
def looseZones (focus : ViewFocus) (zones : List Zone) (above : Bool) : List Zone :=
  zones.filter fun z =>
    ¬focus.IsCoarse z ∧ ¬focus.IsNested zones z ∧ decide (focus.reference ≤ z.mid) = above

/-- What a coarse view shows of some zones. -/
def ShowsCoarsely (focus : ViewFocus) (zones : List Zone) (z : Zone) : Prop :=
  focus.IsCoarse z ∨ focus.IsNested zones z ∨
    ∃ above, IsNearest focus.reference (focus.looseZones zones above) z

end ViewFocus

variable {focus : ViewFocus} {zones : List Zone} {z : Zone} {above : Bool}

theorem mem_looseZones : z ∈ focus.looseZones zones above ↔
    z ∈ zones ∧ ¬focus.IsCoarse z ∧ ¬focus.IsNested zones z ∧
      decide (focus.reference ≤ z.mid) = above := by
  simp [ViewFocus.looseZones]

/-! ## One narrowing -/

theorem any_coarse_eq (focus : ViewFocus) (zones : List Zone) (z : Zone) :
    (zones.filter fun c => focus.view.secs ≤ c.timeframe.secs).any (nestedIn focus.tolerance z) =
      decide (focus.IsNested zones z) := by
  rw [Bool.eq_iff_iff, List.any_eq_true, decide_eq_true_eq]
  simp only [List.mem_filter, decide_eq_true_eq, ViewFocus.IsNested, ViewFocus.IsCoarse, and_assoc]

theorem nodup_ids_looseZones (hid : (zones.map Zone.id).Nodup) :
    ((focus.looseZones zones above).map Zone.id).Nodup :=
  (List.filter_sublist.map Zone.id).nodup hid

/-- The first of the loose zones on a side is the nearest. -/
theorem mem_take_looseZones (hid : (zones.map Zone.id).Nodup) :
    z ∈ (sortByNearest focus.reference (focus.looseZones zones above)).take 1 ↔
      IsNearest focus.reference (focus.looseZones zones above) z := by
  rw [mem_take_sortByNearest (nodup_ids_looseZones hid), isNearest_iff, AmongFirst]
  simp

/-- The sides of the code are the loose zones. -/
theorem filter_loose_eq (focus : ViewFocus) (zones : List Zone) (above : Bool) :
    ((zones.filter fun z => !decide (focus.view.secs ≤ z.timeframe.secs)).filter fun z =>
        !decide (focus.IsNested zones z)).filter (fun z =>
          decide (focus.reference ≤ z.mid) == above) = focus.looseZones zones above := by
  rw [List.filter_filter, List.filter_filter, ViewFocus.looseZones]
  refine List.filter_congr fun z _ => ?_
  rw [Bool.eq_iff_iff, decide_eq_true_eq]
  simp only [Bool.and_eq_true, beq_iff_eq, Bool.not_eq_true', decide_eq_false_iff_not,
    ViewFocus.IsCoarse]
  tauto

/-- The finer zones that are looked up by their ids. -/
def keptFine (focus : ViewFocus) (zones : List Zone) : List Zone :=
  ((zones.filter fun z => !decide (focus.IsCoarse z)).filter fun z =>
      decide (focus.IsNested zones z)) ++
    (sortByNearest focus.reference (focus.looseZones zones true)).take 1 ++
    (sortByNearest focus.reference (focus.looseZones zones false)).take 1

theorem refineHighView_eq (focus : ViewFocus) (zones : List Zone) :
    refineHighView focus zones =
      (zones.filter fun z => decide (focus.IsCoarse z)) ++
        (zones.filter fun z => !decide (focus.IsCoarse z)).filter fun z =>
          ((keptFine focus zones).map Zone.id).contains z.id := by
  have habove := filter_loose_eq focus zones true
  have hbelow := filter_loose_eq focus zones false
  simp only [beq_true, beq_false] at habove hbelow
  simp only [refineHighView, any_coarse_eq, habove, hbelow]
  rfl

theorem mem_keptFine (hid : (zones.map Zone.id).Nodup) : z ∈ keptFine focus zones ↔
    z ∈ zones ∧ ¬focus.IsCoarse z ∧ (focus.IsNested zones z ∨
      ∃ above, IsNearest focus.reference (focus.looseZones zones above) z) := by
  have hside {above : Bool} (h : IsNearest focus.reference (focus.looseZones zones above) z) :
      z ∈ zones ∧ ¬focus.IsCoarse z :=
    ⟨(mem_looseZones.mp h.1).1, (mem_looseZones.mp h.1).2.1⟩
  simp only [keptFine, List.mem_append, List.mem_filter, mem_take_looseZones hid,
    Bool.not_eq_true', decide_eq_true_eq, decide_eq_false_iff_not, Bool.exists_bool]
  constructor
  · rintro ((⟨⟨hz, hfine⟩, hnested⟩ | habove) | hbelow)
    · exact ⟨hz, hfine, Or.inl hnested⟩
    · exact ⟨(hside habove).1, (hside habove).2, Or.inr (Or.inr habove)⟩
    · exact ⟨(hside hbelow).1, (hside hbelow).2, Or.inr (Or.inl hbelow)⟩
  · rintro ⟨hz, hfine, hnested | hbelow | habove⟩
    · exact Or.inl (Or.inl ⟨⟨hz, hfine⟩, hnested⟩)
    · exact Or.inr hbelow
    · exact Or.inl (Or.inr habove)

/-- **A coarse view.** What it shows, zone by zone. -/
theorem mem_refineHighView (hid : (zones.map Zone.id).Nodup) :
    z ∈ refineHighView focus zones ↔ z ∈ zones ∧ focus.ShowsCoarsely zones z := by
  have hkept : ∀ y ∈ keptFine focus zones, y ∈ zones := fun y hy => ((mem_keptFine hid).mp hy).1
  rw [refineHighView_eq, List.mem_append, List.mem_filter, List.mem_filter, List.mem_filter,
    decide_eq_true_eq, Bool.not_eq_true', decide_eq_false_iff_not]
  constructor
  · rintro (⟨hz, hcoarse⟩ | ⟨⟨hz, -⟩, hlookup⟩)
    · exact ⟨hz, Or.inl hcoarse⟩
    · exact ⟨hz, Or.inr ((mem_keptFine hid).mp ((contains_ids_iff hid hkept hz).mp hlookup)).2.2⟩
  · rintro ⟨hz, hshows⟩
    by_cases hcoarse : focus.IsCoarse z
    · exact Or.inl ⟨hz, hcoarse⟩
    · refine Or.inr ⟨⟨hz, hcoarse⟩, (contains_ids_iff hid hkept hz).mpr ?_⟩
      exact (mem_keptFine hid).mpr ⟨hz, hcoarse, hshows.resolve_left hcoarse⟩

/-! ## Narrowing again -/

theorem isHigh_iff : focus.view.isHigh = true ↔ 3600 ≤ focus.view.secs := decide_eq_true_iff

theorem mem_refine_of_high (hhigh : 3600 ≤ focus.view.secs) (hid : (zones.map Zone.id).Nodup) :
    z ∈ refine focus zones ↔ z ∈ zones ∧ focus.ShowsCoarsely zones z := by
  rw [refine, if_pos (isHigh_iff.mpr hhigh), mem_sortByPrice, mem_refineHighView hid]

/-- A coarse zone is shown, so it holds after narrowing what it held before. -/
theorem isNested_refine (hhigh : 3600 ≤ focus.view.secs) (hid : (zones.map Zone.id).Nodup) :
    focus.IsNested (refine focus zones) z ↔ focus.IsNested zones z := by
  refine exists_congr fun c => ?_
  rw [mem_refine_of_high hhigh hid]
  constructor
  · rintro ⟨⟨hc, -⟩, hcoarse, hholds⟩
    exact ⟨hc, hcoarse, hholds⟩
  · rintro ⟨hc, hcoarse, hholds⟩
    exact ⟨⟨hc, Or.inl hcoarse⟩, hcoarse, hholds⟩

theorem mem_looseZones_refine (hhigh : 3600 ≤ focus.view.secs) (hid : (zones.map Zone.id).Nodup) :
    z ∈ focus.looseZones (refine focus zones) above ↔
      z ∈ refine focus zones ∧ z ∈ focus.looseZones zones above := by
  rw [mem_looseZones, mem_looseZones, isNested_refine hhigh hid]
  constructor
  · rintro ⟨hz, hloose⟩
    exact ⟨hz, (refine_subperm focus zones).subset hz, hloose⟩
  · rintro ⟨hz, -, hloose⟩
    exact ⟨hz, hloose⟩

/-- What is shown of the zones is shown of those shown. -/
theorem showsCoarsely_refine (hhigh : 3600 ≤ focus.view.secs) (hid : (zones.map Zone.id).Nodup)
    (hz : z ∈ refine focus zones) : focus.ShowsCoarsely (refine focus zones) z := by
  rcases ((mem_refine_of_high hhigh hid).mp hz).2 with hcoarse | hnested | ⟨above, hmem, hle⟩
  · exact Or.inl hcoarse
  · exact Or.inr (Or.inl ((isNested_refine hhigh hid).mpr hnested))
  · refine Or.inr (Or.inr ⟨above, (mem_looseZones_refine hhigh hid).mpr ⟨hz, hmem⟩, ?_⟩)
    exact fun y hy => hle y ((mem_looseZones_refine hhigh hid).mp hy).2

theorem refine_refine_of_high (hhigh : 3600 ≤ focus.view.secs) (hid : (zones.map Zone.id).Nodup) :
    refine focus (refine focus zones) = refine focus zones := by
  refine refine_refine hid fun z hz => ?_
  rw [mem_refine_of_high hhigh (nodup_ids_refine focus hid)]
  exact ⟨hz, showsCoarsely_refine hhigh hid hz⟩

/-! ## The sides -/

/-- With finite bounds the middle is a number. -/
theorem Zone.Bounded.isNumber_mid (hz : z.Bounded) : IsNumber z.mid :=
  (rounds_add hz.1 hz.2).number.half

theorem mem_looseZones_above : z ∈ focus.looseZones zones true ↔
    z ∈ zones ∧ ¬focus.IsCoarse z ∧ ¬focus.IsNested zones z ∧ focus.reference ≤ z.mid := by
  rw [mem_looseZones, decide_eq_true_eq]

/-- Where the middle and the reference are numbers, the others are those below it. -/
theorem mem_looseZones_below (hreference : IsNumber focus.reference) (hmid : IsNumber z.mid) :
    z ∈ focus.looseZones zones false ↔
      z ∈ zones ∧ ¬focus.IsCoarse z ∧ ¬focus.IsNested zones z ∧ z.mid < focus.reference := by
  have hside : ¬focus.reference ≤ z.mid ↔ z.mid < focus.reference :=
    ⟨hmid.lt_of_not_le hreference, fun hlt hle => double_not_lt_of_le hle hlt⟩
  rw [mem_looseZones, decide_eq_false_iff_not, hside]

/-! ## The whole view -/

/-- **A coarse view.** Of zones with distinct ids, a view of an hour or more shows just those as
coarse as itself, the finer ones nested in one of them, and of all others the nearest on each side:
of those with the middle not below the reference, and of those left. Where the middle and the
reference are numbers, as the middle is between finite bounds, those left are the ones below it.
Each side that is not empty has one nearest zone. The zones are shown once each, from low to high,
and narrowing them again changes nothing. -/
theorem coarse_view_shows (focus : ViewFocus) (zones : List Zone)
    (hhigh : 3600 ≤ focus.view.secs) (hid : (zones.map Zone.id).Nodup) :
    (∀ z, z ∈ refine focus zones ↔ z ∈ zones ∧
        (focus.IsCoarse z ∨ focus.IsNested zones z ∨
          ∃ above, IsNearest focus.reference (focus.looseZones zones above) z))
      ∧ (∀ above, focus.looseZones zones above ≠ [] →
        ∃! z, IsNearest focus.reference (focus.looseZones zones above) z)
      ∧ (∀ z, z ∈ focus.looseZones zones true ↔
        z ∈ zones ∧ ¬focus.IsCoarse z ∧ ¬focus.IsNested zones z ∧ focus.reference ≤ z.mid)
      ∧ (IsNumber focus.reference → ∀ z : Zone, IsNumber z.mid →
        (z ∈ focus.looseZones zones false ↔
          z ∈ zones ∧ ¬focus.IsCoarse z ∧ ¬focus.IsNested zones z ∧ z.mid < focus.reference))
      ∧ (∀ z : Zone, z.Bounded → IsNumber z.mid)
      ∧ ((refine focus zones).map Zone.id).Nodup
      ∧ (refine focus zones).Pairwise (fun a b => (priceOrder a b).isLE)
      ∧ refine focus (refine focus zones) = refine focus zones :=
  ⟨fun _ => mem_refine_of_high hhigh hid,
    fun _ => existsUnique_isNearest (nodup_ids_looseZones hid),
    fun _ => mem_looseZones_above,
    fun hreference _ hmid => mem_looseZones_below hreference hmid,
    fun _ hz => hz.isNumber_mid,
    nodup_ids_refine focus hid,
    refine_pairwise focus zones,
    refine_refine_of_high hhigh hid⟩

/-! ## A view of two hours -/

instance (reference : Float) (side : List Zone) (z : Zone) :
    Decidable (IsNearest reference side z) := inferInstanceAs (Decidable (_ ∧ ∀ y ∈ side, _))

instance (focus : ViewFocus) (zones : List Zone) (z : Zone) :
    Decidable (focus.ShowsCoarsely zones z) :=
  decidable_of_iff
    (focus.IsCoarse z ∨ focus.IsNested zones z ∨
      IsNearest focus.reference (focus.looseZones zones false) z ∨
      IsNearest focus.reference (focus.looseZones zones true) z)
    (by rw [ViewFocus.ShowsCoarsely, Bool.exists_bool])

/-- A view of two hours, with the price at 100. -/
def wideFocus : ViewFocus where
  view := ⟨7200, by decide⟩
  reference := 100.0
  tolerance := 0.0625
  window := 5.0
  limit := .all

/-- A zone of eight hours; one that sticks out of it by less than the tolerance; and one near and
one far zone on each side. -/
def mixedZones : List Zone :=
  [{ plainZone "coarse" 90.0 95.0 with timeframe := ⟨28800, by decide⟩ },
    plainZone "nested" 91.0 95.03125, plainZone "near above" 101.0 102.0,
    plainZone "far above" 110.0 111.0, plainZone "near below" 97.0 98.0,
    plainZone "far below" 80.0 81.0]

/-- The nested zone and the near ones stay, the far ones go. -/
theorem coarse_view_of_mixed_zones :
    3600 ≤ wideFocus.view.secs ∧ (mixedZones.map Zone.id).Nodup ∧
      (∀ z ∈ [plainZone "nested" 91.0 95.03125, plainZone "near above" 101.0 102.0,
        plainZone "near below" 97.0 98.0], z ∈ refine wideFocus mixedZones) ∧
      (∀ z ∈ [plainZone "far above" 110.0 111.0, plainZone "far below" 80.0 81.0],
        z ∉ refine wideFocus mixedZones) ∧
      refine wideFocus (refine wideFocus mixedZones) = refine wideFocus mixedZones := by
  have hhigh : 3600 ≤ wideFocus.view.secs := by decide
  have hid : (mixedZones.map Zone.id).Nodup := by decide
  obtain ⟨hshown, -, -, -, -, -, -, hagain⟩ := coarse_view_shows wideFocus mixedZones hhigh hid
  refine ⟨hhigh, hid, fun z hz => (hshown z).mpr ?_, fun z hz h => ?_, hagain⟩
  · revert z
    decide +kernel
  · have hout : ∀ z ∈ [plainZone "far above" 110.0 111.0, plainZone "far below" 80.0 81.0],
        ¬wideFocus.ShowsCoarsely mixedZones z := by decide +kernel
    exact hout z hz ((hshown z).mp h).2

/-- A zone without bounds. -/
def endlessZone : Zone := plainZone "endless" negativeInfinity positiveInfinity

/-- A view that does not know the price. -/
def blindFocus : ViewFocus := { wideFocus with reference := 0.0 / 0.0 }

/-- The view shows a zone that is neither coarse nor nested, and on neither side. -/
def ViewFocus.ShowsUnplaced (focus : ViewFocus) (z : Zone) : Prop :=
  3600 ≤ focus.view.secs ∧ z.min ≤ z.max ∧ z ∈ refine focus [z] ∧
    ¬(focus.IsCoarse z ∨ focus.IsNested [z] z ∨ focus.reference ≤ z.mid ∨
      z.mid < focus.reference)

/-- **On neither side.** Where the middle or the reference is no number, the middle is neither at
the reference or above nor below it. Still the zone counts among those left, and is shown. -/
theorem unplaced_zone_is_shown :
    wideFocus.ShowsUnplaced endlessZone ∧ blindFocus.ShowsUnplaced (plainZone "a" 99.0 101.0) := by
  have hendless : endlessZone ∈ refine wideFocus [endlessZone] :=
    (mem_refine_of_high (by decide) (by decide)).mpr (by decide +kernel)
  have hblind : plainZone "a" 99.0 101.0 ∈ refine blindFocus [plainZone "a" 99.0 101.0] :=
    (mem_refine_of_high (by decide) (by decide)).mpr (by decide +kernel)
  exact ⟨⟨by decide, by decide +kernel, hendless, by decide +kernel⟩,
    ⟨by decide, by decide +kernel, hblind, by decide +kernel⟩⟩

end ChartLayer
