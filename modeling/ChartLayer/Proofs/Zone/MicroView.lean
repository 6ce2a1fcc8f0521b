import ChartLayer.Proofs.Zone.Envelope
import ChartLayer.Proofs.Zone.Nearest
import ChartLayer.Proofs.Zone.View

/-!
# What a micro view shows

A micro view shows points of interest only: those that hold the reference, and of those within the
window the first few on each side. `mem_refineMicroView` says of each zone by itself whether it is
shown. How many zones come before a zone only falls when zones are left out, so that narrowing again
changes nothing; and a higher limit shows no fewer zones.
-/

namespace ChartLayer

namespace ViewFocus

/-- The points of interest within the window that do not hold the reference, on one side: those
above the reference, or all others. -/
def nearPoints (focus : ViewFocus) (zones : List Zone) (above : Bool) : List Zone :=
  zones.filter fun z =>
    z.role = .pointOfInterest ∧ z.contains focus.reference = false ∧
      z.distanceFrom focus.reference ≤ focus.window ∧ decide (focus.reference < z.min) = above

/-- What a micro view shows of some zones. -/
def ShowsClosely (focus : ViewFocus) (zones : List Zone) (z : Zone) : Prop :=
  z.role = .pointOfInterest ∧
    (z.contains focus.reference = true ∨
      ∃ above, AmongFirst focus.limit.sideLimit focus.reference (focus.nearPoints zones above) z)

end ViewFocus

variable {focus : ViewFocus} {zones : List Zone} {z : Zone} {above : Bool}

theorem mem_nearPoints : z ∈ focus.nearPoints zones above ↔
    z ∈ zones ∧ z.role = .pointOfInterest ∧ z.contains focus.reference = false ∧
      z.distanceFrom focus.reference ≤ focus.window ∧
        decide (focus.reference < z.min) = above := by
  simp [ViewFocus.nearPoints]

theorem nodup_ids_nearPoints (hid : (zones.map Zone.id).Nodup) :
    ((focus.nearPoints zones above).map Zone.id).Nodup :=
  (List.filter_sublist.map Zone.id).nodup hid

/-! ## One narrowing -/

/-- The first zones of a side, as many as the limit lets through. -/
def firstOf (focus : ViewFocus) (side : List Zone) : List Zone :=
  match focus.limit.sideLimit with
  | some k => (sortByNearest focus.reference side).take k
  | none => sortByNearest focus.reference side

theorem mem_firstOf {side : List Zone} (hid : (side.map Zone.id).Nodup) :
    z ∈ firstOf focus side ↔ AmongFirst focus.limit.sideLimit focus.reference side z := by
  unfold firstOf AmongFirst
  cases focus.limit.sideLimit with
  | none => simp [(sortByNearest_perm focus.reference side).mem_iff]
  | some k => simp [mem_take_sortByNearest hid]

/-- The sides of the code are the near points. -/
theorem filter_near_eq (focus : ViewFocus) (zones : List Zone) (above : Bool) :
    ((zones.filter fun z => decide (z.role = .pointOfInterest)).filter fun z =>
        !z.contains focus.reference &&
          decide (z.distanceFrom focus.reference ≤ focus.window)).filter (fun z =>
            decide (focus.reference < z.min) == above) = focus.nearPoints zones above := by
  rw [List.filter_filter, List.filter_filter, ViewFocus.nearPoints]
  refine List.filter_congr fun z _ => ?_
  rw [Bool.eq_iff_iff]
  simp only [Bool.and_eq_true, beq_iff_eq, Bool.not_eq_true', decide_eq_true_eq]
  tauto

/-- The points that are looked up by their ids. -/
def keptPoints (focus : ViewFocus) (zones : List Zone) : List Zone :=
  ((zones.filter fun z => decide (z.role = .pointOfInterest)).filter fun z =>
      z.contains focus.reference) ++
    firstOf focus (focus.nearPoints zones true) ++ firstOf focus (focus.nearPoints zones false)

theorem refineMicroView_eq (focus : ViewFocus) (zones : List Zone) :
    refineMicroView focus zones =
      (zones.filter fun z => decide (z.role = .pointOfInterest)).filter fun z =>
        ((keptPoints focus zones).map Zone.id).contains z.id := by
  have habove := filter_near_eq focus zones true
  have hbelow := filter_near_eq focus zones false
  simp only [beq_true, beq_false] at habove hbelow
  simp only [refineMicroView, habove, hbelow]
  rfl

theorem mem_keptPoints (hid : (zones.map Zone.id).Nodup) :
    z ∈ keptPoints focus zones ↔ z ∈ zones ∧ focus.ShowsClosely zones z := by
  have hside {above : Bool} (h : AmongFirst focus.limit.sideLimit focus.reference
      (focus.nearPoints zones above) z) : z ∈ zones ∧ z.role = .pointOfInterest :=
    ⟨(mem_nearPoints.mp h.1).1, (mem_nearPoints.mp h.1).2.1⟩
  simp only [keptPoints, ViewFocus.ShowsClosely, List.mem_append, List.mem_filter,
    mem_firstOf (nodup_ids_nearPoints hid), decide_eq_true_eq, Bool.exists_bool]
  constructor
  · rintro ((⟨⟨hz, hpoint⟩, hholds⟩ | habove) | hbelow)
    · exact ⟨hz, hpoint, Or.inl hholds⟩
    · exact ⟨(hside habove).1, (hside habove).2, Or.inr (Or.inr habove)⟩
    · exact ⟨(hside hbelow).1, (hside hbelow).2, Or.inr (Or.inl hbelow)⟩
  · rintro ⟨hz, hpoint, hholds | hbelow | habove⟩
    · exact Or.inl (Or.inl ⟨⟨hz, hpoint⟩, hholds⟩)
    · exact Or.inr hbelow
    · exact Or.inl (Or.inr habove)

/-- **A micro view.** What it shows, zone by zone. -/
theorem mem_refineMicroView (hid : (zones.map Zone.id).Nodup) :
    z ∈ refineMicroView focus zones ↔ z ∈ zones ∧ focus.ShowsClosely zones z := by
  have hkept : ∀ y ∈ keptPoints focus zones, y ∈ zones :=
    fun y hy => ((mem_keptPoints hid).mp hy).1
  rw [refineMicroView_eq, List.mem_filter, List.mem_filter, decide_eq_true_eq]
  constructor
  · rintro ⟨⟨hz, -⟩, hlookup⟩
    exact (mem_keptPoints hid).mp ((contains_ids_iff hid hkept hz).mp hlookup)
  · rintro ⟨hz, hshows⟩
    refine ⟨⟨hz, hshows.1⟩, (contains_ids_iff hid hkept hz).mpr ?_⟩
    exact (mem_keptPoints hid).mpr ⟨hz, hshows⟩

/-! ## Narrowing again -/

theorem isMicro_iff : focus.view.isMicro = true ↔ focus.view.secs ≤ 70 := decide_eq_true_iff

theorem not_isHigh_of_micro (hmicro : focus.view.secs ≤ 70) : ¬focus.view.isHigh = true := by
  intro hhigh
  have hle : (3600 : Time) ≤ focus.view.secs := of_decide_eq_true hhigh
  exact absurd (Int64.le_trans hle hmicro) (by decide)

theorem mem_refine_of_micro (hmicro : focus.view.secs ≤ 70) (hid : (zones.map Zone.id).Nodup) :
    z ∈ refine focus zones ↔ z ∈ zones ∧ focus.ShowsClosely zones z := by
  rw [refine, if_neg (not_isHigh_of_micro hmicro), if_pos (isMicro_iff.mpr hmicro),
    mem_sortByPrice, mem_refineMicroView hid]

theorem nearPoints_subperm {others : List Zone} (hsub : others.Subperm zones) :
    (focus.nearPoints others above).Subperm (focus.nearPoints zones above) :=
  hsub.filter _

/-- What is shown of the zones is shown of those shown. -/
theorem showsClosely_refine (hmicro : focus.view.secs ≤ 70) (hid : (zones.map Zone.id).Nodup)
    (hz : z ∈ refine focus zones) : focus.ShowsClosely (refine focus zones) z := by
  obtain ⟨hpoint, hholds | ⟨above, hfirst⟩⟩ := ((mem_refine_of_micro hmicro hid).mp hz).2
  · exact ⟨hpoint, Or.inl hholds⟩
  · refine ⟨hpoint, Or.inr ⟨above, hfirst.of_subperm (nearPoints_subperm ?_) ?_⟩⟩
    · exact refine_subperm focus zones
    · exact mem_nearPoints.mpr ⟨hz, (mem_nearPoints.mp hfirst.1).2⟩

theorem refine_refine_of_micro (hmicro : focus.view.secs ≤ 70)
    (hid : (zones.map Zone.id).Nodup) :
    refine focus (refine focus zones) = refine focus zones := by
  refine refine_refine hid fun z hz => ?_
  rw [mem_refine_of_micro hmicro (nodup_ids_refine focus hid)]
  exact ⟨hz, showsClosely_refine hmicro hid hz⟩

/-! ## The sides -/

theorem mem_nearPoints_above : z ∈ focus.nearPoints zones true ↔
    z ∈ zones ∧ z.role = .pointOfInterest ∧ focus.reference < z.min ∧
      z.distanceFrom focus.reference ≤ focus.window := by
  have hout (habove : focus.reference < z.min) : z.contains focus.reference = false := by
    rw [Zone.contains, decide_eq_false fun hle => double_not_lt_of_le hle habove, Bool.false_and]
  rw [mem_nearPoints, decide_eq_true_eq]
  constructor
  · rintro ⟨hz, hpoint, -, hwindow, habove⟩
    exact ⟨hz, hpoint, habove, hwindow⟩
  · rintro ⟨hz, hpoint, habove, hwindow⟩
    exact ⟨hz, hpoint, hout habove, hwindow, habove⟩

/-- With bounds in order and a reference that is a number, the others are those below it. -/
theorem mem_nearPoints_below (hreference : IsNumber focus.reference) (hz : z.Bounded)
    (hle : z.min ≤ z.max) : z ∈ focus.nearPoints zones false ↔
    z ∈ zones ∧ z.role = .pointOfInterest ∧ z.max < focus.reference ∧
      z.distanceFrom focus.reference ≤ focus.window := by
  have hmin := IsNumber.of_isFinite hz.1
  have hmax := IsNumber.of_isFinite hz.2
  have hside : z.contains focus.reference = false ∧ decide (focus.reference < z.min) = false ↔
      z.max < focus.reference := by
    rw [Zone.contains, Bool.and_eq_false_iff, decide_eq_false_iff_not, decide_eq_false_iff_not,
      decide_eq_false_iff_not]
    constructor
    · rintro ⟨hlow | hhigh, hnotAbove⟩
      · exact absurd (hreference.lt_of_not_le hmin hlow) hnotAbove
      · exact hmax.lt_of_not_le hreference hhigh
    · intro hlt
      refine ⟨Or.inr fun hback => double_not_lt_of_le hback hlt, fun habove => ?_⟩
      exact double_not_lt_of_le (double_le_trans (double_le_of_lt habove) hle) hlt
  rw [mem_nearPoints, ← hside]
  tauto

/-- A point of a side is shown if it is among the first of the side. -/
theorem mem_refine_nearPoints (hmicro : focus.view.secs ≤ 70) (hid : (zones.map Zone.id).Nodup)
    (hz : z ∈ focus.nearPoints zones above) : z ∈ refine focus zones ↔
    AmongFirst focus.limit.sideLimit focus.reference (focus.nearPoints zones above) z := by
  obtain ⟨hmem, hpoint, hout, -, hside⟩ := mem_nearPoints.mp hz
  rw [mem_refine_of_micro hmicro hid]
  constructor
  · rintro ⟨-, -, hholds | ⟨other, hfirst⟩⟩
    · rw [hout] at hholds
      cases hholds
    · have hother := (mem_nearPoints.mp hfirst.1).2.2.2.2
      rwa [← hside, hother]
  · exact fun hfirst => ⟨hmem, hpoint, Or.inr ⟨above, hfirst⟩⟩

/-! ## The limits -/

/-- A higher limit shows no fewer zones. -/
theorem refine_sublist_of_limit {limit higher : LimitMode} (hmicro : focus.view.secs ≤ 70)
    (hid : (zones.map Zone.id).Nodup)
    (hle : ∀ m ∈ higher.sideLimit, ∃ k ∈ limit.sideLimit, k ≤ m) :
    (refine { focus with limit := limit } zones).Sublist
      (refine { focus with limit := higher } zones) := by
  have hlow : ({ focus with limit := limit } : ViewFocus).view.secs ≤ 70 := hmicro
  have hhigh : ({ focus with limit := higher } : ViewFocus).view.secs ≤ 70 := hmicro
  refine refine_sublist hid fun z hz => ?_
  obtain ⟨hmem, hpoint, hshows⟩ := (mem_refine_of_micro hlow hid).mp hz
  refine (mem_refine_of_micro hhigh hid).mpr ⟨hmem, hpoint, hshows.imp_right ?_⟩
  rintro ⟨above, hfirst⟩
  exact ⟨above, hfirst.mono hle⟩

/-- **A micro view.** Of zones with distinct ids, a view of seventy seconds or less shows just the
points of interest that hold the reference, and of those within the window the first few on each
side, as many as the limit lets through: of those above the reference, and of those left. If bounds
are finite and in order and the reference is a number, those left are the ones below it. So none
that goes comes before one of its side that stays; one for each side is a part of two for each
side, and that a part of all; and narrowing again changes nothing. -/
theorem micro_view_shows (focus : ViewFocus) (zones : List Zone) (hmicro : focus.view.secs ≤ 70)
    (hid : (zones.map Zone.id).Nodup) :
    (∀ z, z ∈ refine focus zones ↔ z ∈ zones ∧ z.role = .pointOfInterest ∧
        (z.contains focus.reference = true ∨ ∃ above,
          AmongFirst focus.limit.sideLimit focus.reference (focus.nearPoints zones above) z))
      ∧ (∀ z, z ∈ focus.nearPoints zones true ↔
        z ∈ zones ∧ z.role = .pointOfInterest ∧ focus.reference < z.min ∧
          z.distanceFrom focus.reference ≤ focus.window)
      ∧ (IsNumber focus.reference → ∀ z : Zone, z.Bounded → z.min ≤ z.max →
        (z ∈ focus.nearPoints zones false ↔
          z ∈ zones ∧ z.role = .pointOfInterest ∧ z.max < focus.reference ∧
            z.distanceFrom focus.reference ≤ focus.window))
      ∧ ((refine focus zones).map Zone.id).Nodup
      ∧ (∀ above, ∀ y ∈ focus.nearPoints zones above, ∀ z ∈ focus.nearPoints zones above,
        z ∈ refine focus zones → y ∉ refine focus zones →
          nearestOrder focus.reference y z ≠ .lt)
      ∧ (refine { focus with limit := .near1 } zones).Sublist
          (refine { focus with limit := .near2 } zones)
      ∧ (refine { focus with limit := .near2 } zones).Sublist
          (refine { focus with limit := .all } zones)
      ∧ refine focus (refine focus zones) = refine focus zones := by
  refine ⟨fun _ => mem_refine_of_micro hmicro hid, fun _ => mem_nearPoints_above,
    fun hreference _ hz hle => mem_nearPoints_below hreference hz hle, nodup_ids_refine focus hid,
    ?_, refine_sublist_of_limit hmicro hid (by decide),
    refine_sublist_of_limit hmicro hid (by decide), refine_refine_of_micro hmicro hid⟩
  intro above y hy z hz hshown hgone hlt
  have hfirst := (mem_refine_nearPoints hmicro hid hz).mp hshown
  exact hgone ((mem_refine_nearPoints hmicro hid hy).mpr (hfirst.of_nearer hy hlt))

/-! ## A view of a minute -/

instance (limit : Option Nat) (reference : Float) (side : List Zone) (z : Zone) :
    Decidable (AmongFirst limit reference side z) :=
  inferInstanceAs (Decidable (_ ∧ ∀ k ∈ limit, _))

instance (focus : ViewFocus) (zones : List Zone) (z : Zone) :
    Decidable (focus.ShowsClosely zones z) :=
  decidable_of_iff
    (z.role = .pointOfInterest ∧ (z.contains focus.reference = true ∨
      AmongFirst focus.limit.sideLimit focus.reference (focus.nearPoints zones false) z ∨
      AmongFirst focus.limit.sideLimit focus.reference (focus.nearPoints zones true) z))
    (by rw [ViewFocus.ShowsClosely, Bool.exists_bool])

/-- A view of a minute that keeps one zone on each side of 100. -/
def minuteFocus : ViewFocus where
  view := ⟨60, by decide⟩
  reference := 100.0
  tolerance := 0.0
  window := 5.0
  limit := .near1

/-- A point that ends at the reference; two equally near above it; one as far below as the window
reaches; and one that is no point of interest. -/
def scatteredZones : List Zone :=
  [plainZone "touching" 99.0 100.0, plainZone "second" 101.0 103.0, plainZone "first" 101.0 102.0,
    plainZone "edge" 94.0 95.0, { plainZone "entry" 98.0 99.0 with role := .entry }]

/-- Of two equally near zones the id decides; touching the reference and the end of the window are
within. -/
theorem micro_view_of_scattered_zones :
    minuteFocus.view.secs ≤ 70 ∧ (scatteredZones.map Zone.id).Nodup ∧
      (∀ z ∈ scatteredZones, z ∈ refine minuteFocus scatteredZones ↔
        z.id ∈ ["touching", "first", "edge"]) ∧
      refine minuteFocus (refine minuteFocus scatteredZones) =
        refine minuteFocus scatteredZones := by
  have hmicro : minuteFocus.view.secs ≤ 70 := by decide
  have hid : (scatteredZones.map Zone.id).Nodup := by decide
  obtain ⟨hshown, -, -, -, -, -, -, hagain⟩ :=
    micro_view_shows minuteFocus scatteredZones hmicro hid
  refine ⟨hmicro, hid, fun z hz => (hshown z).trans ?_, hagain⟩
  have hall : ∀ z ∈ scatteredZones, z ∈ scatteredZones ∧
      minuteFocus.ShowsClosely scatteredZones z ↔ z.id ∈ ["touching", "first", "edge"] := by
    decide +kernel
  exact hall z hz

/-- **On neither side.** If the reference is no number, a point of interest neither holds it nor
lies above or below it. Still it counts among those left, and is shown. -/
theorem unplaced_point_is_shown :
    let focus : ViewFocus := { minuteFocus with reference := 0.0 / 0.0 }
    let z := plainZone "a" 99.0 101.0
    focus.view.secs ≤ 70 ∧ z.Bounded ∧ z.min ≤ z.max ∧ z ∈ refine focus [z] ∧
      ¬(z.contains focus.reference = true ∨ focus.reference < z.min ∨
        z.max < focus.reference) := by
  intro focus z
  have hshown : z ∈ refine focus [z] :=
    (mem_refine_of_micro (by decide) (by decide)).mpr (by decide +kernel)
  refine ⟨by decide, ?_, by decide +kernel, hshown, by decide +kernel⟩
  exact ⟨by decide +kernel, by decide +kernel⟩

end ChartLayer
