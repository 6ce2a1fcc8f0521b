import ChartLayer.Proofs.Label.Turns
import ChartLayer.Proofs.Number.NotANumber

/-!
# Labels in the pane

The tests that keep a label in the pane are comparisons: off the pane, out of the margin, too near
to another label, below the bottom. A pixel that is a number is held in the pane by the first two
and is pushed down by the third only, so it ends in the pane, or the last test hides the label;
infinite pixels are no exception. With NaN all of them are false, and the label is shown there. So
NaN is the one answer of a pane for which a label is shown outside of it.

* `pushDown_spec`: what is pushed down stays a number, or NaN.
* `InPane.place`, `isNumber_place_iff`: one turn.
* `inPane_foldl`: all turns.
* `placed_in_pane_iff`: the layout.
-/

namespace ChartLayer.Labels

variable {rules : LabelRules Float} {height : Float} {map : PriceMap Float}

/-- In the pane, if it is anywhere. -/
def HeldIn (height y : Float) : Prop := IsNumber y → 0.0 ≤ y ∧ y ≤ height

/-! ## The pixel that is asked for -/

/-- A number is held in the pane; NaN is not held. -/
theorem clamp_spec (hheight : 0.0 ≤ height) (y : Float) :
    (IsNumber (Quantity.clamp y 0.0 height) ↔ IsNumber y) ∧
      HeldIn height (Quantity.clamp y 0.0 height) := by
  obtain ⟨-, hnumber, -⟩ := le_iff.mp hheight
  unfold Quantity.clamp HeldIn
  dsimp only
  by_cases hlow : y < 0.0
  · obtain ⟨hy, -, -⟩ := lt_iff.mp hlow
    rw [if_pos hlow, if_neg (double_not_lt_of_le hheight)]
    exact ⟨iff_of_true isNumber_zero hy, fun _ => ⟨isNumber_zero.le_refl, hheight⟩⟩
  · rw [if_neg hlow]
    by_cases hhigh : height < y
    · obtain ⟨-, hy, -⟩ := lt_iff.mp hhigh
      rw [if_pos hhigh]
      exact ⟨iff_of_true hnumber hy, fun _ => ⟨hheight, hnumber.le_refl⟩⟩
    · rw [if_neg hhigh]
      exact ⟨Iff.rfl, fun hy =>
        ⟨isNumber_zero.le_of_not_lt hy hlow, hy.le_of_not_lt hnumber hhigh⟩⟩

/-- A label that asks for a pixel asks for one in the pane, unless the pane has answered NaN. -/
theorem asked?_spec (hheight : 0.0 ≤ height) {anchor y : Float}
    (h : asked? rules height map anchor = some y) :
    HeldIn height y ∧ anchor.isFinite = true ∧
      ∃ pixel, map.pixelOf anchor = some pixel ∧ (IsNumber y ↔ IsNumber pixel) := by
  unfold asked? at h
  split at h
  · rename_i hanchor
    obtain ⟨pixel, hpixel, hdesired⟩ := Option.bind_eq_some_iff.mp h
    unfold desired? at hdesired
    split at hdesired
    · cases hdesired
    · cases hdesired
      obtain ⟨hnumber, hheld⟩ := clamp_spec hheight (roundAway pixel)
      exact ⟨hheld, hanchor, pixel, hpixel, hnumber.trans isNumber_roundAway_iff⟩
  · cases h

/-- Where the pane has answered NaN, the label has a turn. -/
theorem asked?_of_nan {anchor pixel : Float} (hanchor : anchor.isFinite = true)
    (hpixel : map.pixelOf anchor = some pixel) (hnan : ¬IsNumber pixel) :
    ∃ y, asked? rules height map anchor = some y := by
  have hround : ¬IsNumber (roundAway pixel) := mt isNumber_roundAway_iff.mp hnan
  have hvisible : ¬(roundAway pixel < -rules.margin ∨ height + rules.margin < roundAway pixel) := by
    rintro (hout | hout)
    · exact hround (lt_iff.mp hout).1
    · exact hround (lt_iff.mp hout).2.1
  refine ⟨Quantity.clamp (roundAway pixel) 0.0 height, ?_⟩
  have hasked : asked? rules height map anchor =
      (map.pixelOf anchor).bind fun pixel => desired? rules height (roundAway pixel) :=
    if_pos hanchor
  rw [hasked, hpixel]
  exact if_neg hvisible

/-! ## One turn -/

/-- Only numbers are pushed down, and by no less than nothing. -/
theorem pushed_nonneg {gap p y : Float} (hp : HeldIn height p) (hnear : (y - p).abs < gap) :
    IsNumber y ∧ 0.0 ≤ p + gap := by
  obtain ⟨hdistance, hgap, hlt⟩ := lt_iff.mp hnear
  obtain ⟨hy, hplace⟩ := IsNumber.of_sub (isNumber_abs_iff.mp hdistance)
  have hpositive : 0.0 ≤ gap := by
    refine le_iff.mpr ⟨isNumber_zero, hgap, ?_⟩
    rw [units_abs] at hlt
    rw [units_zero]
    exact (abs_nonneg _).trans hlt.le
  exact ⟨hy, double_add_nonneg (hp hplace).1 hpositive⟩

/-- **Pushing down.** A number not below zero stays one, and NaN stays NaN. -/
theorem pushDown_spec (gap : Float) {taken : List Float} (htaken : ∀ p ∈ taken, HeldIn height p)
    (y : Float) :
    (IsNumber (pushDown gap taken y) ↔ IsNumber y) ∧ (0.0 ≤ y → 0.0 ≤ pushDown gap taken y) := by
  induction taken generalizing y with
  | nil => exact ⟨Iff.rfl, id⟩
  | cons p rest ih =>
    obtain ⟨hp, hrest⟩ := List.forall_mem_cons.mp htaken
    have hstep : pushDown gap (p :: rest) y =
        pushDown gap rest (if (y - p).abs < gap then p + gap else y) := rfl
    rw [hstep]
    by_cases hnear : (y - p).abs < gap
    · obtain ⟨hy, hpushed⟩ := pushed_nonneg hp hnear
      obtain ⟨hnumber, hnonneg⟩ := ih hrest (p + gap)
      rw [if_pos hnear, hnumber]
      exact ⟨iff_of_true (le_iff.mp hpushed).2.1 hy, fun _ => hnonneg hpushed⟩
    · rw [if_neg hnear]
      exact ih hrest y

/-- What has been placed is in the pane, if it is anywhere. -/
structure InPane (height : Float) (progress : Progress Float) : Prop where
  taken : ∀ p ∈ progress.taken, HeldIn height p
  placed : ∀ p ∈ progress.placed, HeldIn height p.y

/-- A turn keeps to the pane. -/
theorem InPane.place {progress : Progress Float} (h : InPane height progress)
    (hheight : IsNumber height) {turn : LabelRequest Float × Float} (hturn : HeldIn height turn.2) :
    InPane height (Labels.place rules height progress turn) := by
  obtain ⟨hnumber, hnonneg⟩ := pushDown_spec rules.minGap h.taken turn.2
  unfold Labels.place
  dsimp only
  split
  · exact ⟨h.taken, h.placed⟩
  · rename_i hbottom
    have hheld : HeldIn height (pushDown rules.minGap progress.taken turn.2) := fun hy =>
      ⟨hnonneg (hturn (hnumber.mp hy)).1, hy.le_of_not_lt hheight hbottom⟩
    refine ⟨fun p hp => ?_, List.forall_mem_append.mpr ⟨h.placed, by simpa using hheld⟩⟩
    rcases List.mem_cons.mp (insertPlace_perm.mem_iff.mp hp) with rfl | hp
    · exact hheld
    · exact h.taken p hp

/-- A turn shows a label at NaN just if the label asks for NaN. -/
theorem isNumber_place_iff {progress : Progress Float} (h : InPane height progress)
    (turn : LabelRequest Float × Float) :
    (∀ p ∈ (place rules height progress turn).placed, IsNumber p.y) ↔
      (∀ p ∈ progress.placed, IsNumber p.y) ∧ IsNumber turn.2 := by
  obtain ⟨hnumber, -⟩ := pushDown_spec rules.minGap h.taken turn.2
  unfold place
  dsimp only
  split
  · rename_i hbottom
    rw [and_iff_left (hnumber.mp (lt_iff.mp hbottom).2.1)]
  · rw [List.forall_mem_append, List.forall_mem_singleton, hnumber]

/-! ## All turns -/

/-- **All turns.** They keep to the pane, and show labels at NaN just if one of them asks for
NaN. -/
theorem inPane_foldl (rules : LabelRules Float) (hheight : IsNumber height)
    {turns : List (LabelRequest Float × Float)} (hturns : ∀ turn ∈ turns, HeldIn height turn.2)
    {progress : Progress Float} (h : InPane height progress) :
    InPane height (turns.foldl (place rules height) progress) ∧
      ((∀ p ∈ (turns.foldl (place rules height) progress).placed, IsNumber p.y) ↔
        (∀ p ∈ progress.placed, IsNumber p.y) ∧ ∀ turn ∈ turns, IsNumber turn.2) := by
  induction turns generalizing progress with
  | nil => exact ⟨h, (and_iff_left fun turn hturn => nomatch hturn).symm⟩
  | cons turn rest ih =>
    obtain ⟨hturn, hrest⟩ := List.forall_mem_cons.mp hturns
    have hnext : InPane height (place rules height progress turn) := h.place hheight hturn
    obtain ⟨hpane, hnumbers⟩ := ih hrest hnext
    refine ⟨hpane, ?_⟩
    rw [List.foldl_cons, hnumbers, isNumber_place_iff h turn, List.forall_mem_cons, and_assoc]

/-- A label has asked for NaN just if the pane has answered NaN for its price. -/
theorem isNumber_turns_iff (rules : LabelRules Float) (hheight : 0.0 ≤ height)
    {items : List (LabelRequest Float)} :
    (∀ turn ∈ turns rules height map items, IsNumber turn.2) ↔
      ∀ item ∈ items, item.anchor.isFinite = true → ∀ pixel,
        map.pixelOf item.anchor = some pixel → IsNumber pixel := by
  constructor
  · intro h item hitem hanchor pixel hpixel
    by_contra hnan
    obtain ⟨y, hy⟩ : ∃ y, asked? rules height map item.anchor = some y :=
      asked?_of_nan hanchor hpixel hnan
    obtain ⟨-, -, pixel', hpixel', hnumber⟩ := asked?_spec hheight hy
    rw [hpixel, Option.some.injEq] at hpixel'
    subst hpixel'
    exact hnan (hnumber.mp (h (item, y) (mem_turns.mpr ⟨hitem, hy⟩)))
  · rintro h ⟨item, y⟩ hturn
    obtain ⟨hitem, hy⟩ := mem_turns.mp hturn
    obtain ⟨-, hanchor, pixel, hpixel, hnumber⟩ := asked?_spec hheight hy
    exact hnumber.mpr (h item hitem hanchor pixel hpixel)

/-- **The pane.** Whatever labels are asked for and whatever the pane answers, a label is shown in
the pane or at NaN; and all are shown in the pane just if the pane has a number, infinite ones
included, for each finite price of a label. -/
theorem placed_in_pane_iff (rules : LabelRules Float) (items : List (LabelRequest Float))
    (map : PriceMap Float) {result : LabelLayout Float} (h : layout rules items map = .ok result) :
    ∃ height, map.paneHeight = some height ∧
      (∀ p ∈ result.placed, (0.0 ≤ p.y ∧ p.y ≤ height) ∨ ¬IsNumber p.y) ∧
      ((∀ p ∈ result.placed, 0.0 ≤ p.y ∧ p.y ≤ height) ↔
        ∀ item ∈ items, item.anchor.isFinite = true → ∀ pixel,
          map.pixelOf item.anchor = some pixel → IsNumber pixel) := by
  obtain ⟨height, hmeasured, -, rfl⟩ := layout_eq_ok_iff.mp h
  obtain ⟨hpane, hpositive⟩ := of_measuredHeight hmeasured
  have hheight : 0.0 ≤ height := double_le_of_lt hpositive
  have hturns : ∀ turn ∈ inOrder (turns rules height map items), HeldIn height turn.2 := by
    rintro ⟨item, y⟩ hturn
    obtain ⟨-, hy⟩ := mem_turns.mp ((inOrder_perm _).mem_iff.mp hturn)
    exact (asked?_spec hheight hy).1
  have hbefore : InPane height { hidden := passedOver rules height map items } :=
    ⟨fun p hp => (nomatch hp), fun p hp => (nomatch hp)⟩
  obtain ⟨hheld, hnumbers⟩ := inPane_foldl rules (le_iff.mp hheight).2.1 hturns hbefore
  simp only [Progress.layout, List.mem_mergeSort]
  refine ⟨height, hpane, fun p hp => ?_, ?_⟩
  · by_cases hp' : IsNumber p.y
    · exact Or.inl (hheld.placed p hp hp')
    · exact Or.inr hp'
  · calc (∀ p ∈ (afterTurns rules height map items).placed, 0.0 ≤ p.y ∧ p.y ≤ height)
        ↔ ∀ p ∈ (afterTurns rules height map items).placed, IsNumber p.y :=
          forall₂_congr fun p hp => ⟨fun hin => (le_iff.mp hin.1).2.1, hheld.placed p hp⟩
      _ ↔ ∀ turn ∈ inOrder (turns rules height map items), IsNumber turn.2 :=
          hnumbers.trans (and_iff_right fun p hp => nomatch hp)
      _ ↔ ∀ turn ∈ turns rules height map items, IsNumber turn.2 := by
          simp only [(inOrder_perm _).mem_iff]
      _ ↔ _ := isNumber_turns_iff rules hheight

theorem placed_in_pane_iff_of_middle :
    layout sixteenApart [⟨"middle", 105.0, 0, 0⟩] smallPane = .ok ⟨[⟨"middle", 250.0⟩], []⟩ ∧
      ∃ height, smallPane.paneHeight = some height ∧ (0.0 : Float) ≤ 250.0 ∧ 250.0 ≤ height := by
  have hlayout : layout sixteenApart [⟨"middle", 105.0, 0, 0⟩] smallPane =
      .ok ⟨[⟨"middle", 250.0⟩], []⟩ := by decide +kernel
  obtain ⟨height, hheight, -, hin⟩ := placed_in_pane_iff _ _ _ hlayout
  have hnumber : ∀ item ∈ [(⟨"middle", 105.0, 0, 0⟩ : LabelRequest Float)],
      item.anchor.isFinite = true → ∀ pixel, smallPane.pixelOf item.anchor = some pixel →
        IsNumber pixel := by
    simp only [List.mem_singleton, ← isNumber_iff]
    rintro item rfl -
    decide +kernel
  obtain ⟨htop, hbottom⟩ := hin.mpr hnumber ⟨"middle", 250.0⟩ (List.mem_singleton_self _)
  exact ⟨hlayout, height, hheight, htop, hbottom⟩

/-- The span of the range is beyond all doubles, so the pane has NaN for the price at its bottom. -/
def widestPane : PriceMap Float := .linear (some 500.0) (PriceRange.of? (-1e308) 1e308)

/-- A label at that price is neither in the pane nor hidden. -/
theorem label_shown_at_nan :
    PriceRange.of? (-1e308 : Float) 1e308 = some ⟨-1e308, 1e308⟩ ∧
      widestPane.paneHeight = some 500.0 ∧ (-1e308 : Float).isFinite = true ∧
      ∃ result p, layout sixteenApart [⟨"bottom", -1e308, 0, 0⟩] widestPane = .ok result ∧
        p ∈ result.placed ∧ ¬(0.0 ≤ p.y ∧ p.y ≤ 500.0) := by
  have hlayout : layout sixteenApart [⟨"bottom", -1e308, 0, 0⟩] widestPane =
      .ok ⟨[⟨"bottom", 0.0 / 0.0⟩], []⟩ := by decide +kernel
  exact ⟨by decide +kernel, by decide +kernel, by decide +kernel, _, _, hlayout,
    List.mem_singleton_self _, by decide +kernel⟩

end ChartLayer.Labels
