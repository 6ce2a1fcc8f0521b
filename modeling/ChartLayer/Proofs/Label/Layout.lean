import ChartLayer.Proofs.Label.Places
import ChartLayer.Proofs.Label.Turns

/-!
# Where labels go

The layout in exact arithmetic. The labels near the pane have their turn in the order of importance.
Each belongs at the pixel of its price, goes to the least pixel from there down that keeps the gap
from all labels before it, and is hidden if that pixel lies below the pane.

* `Packed`: where labels go, said without the way the place is found.
* `Tracks.place`: one label, from the places taken.
* `layout_packs`: the layout is packed so, for all labels and all panes.
-/

namespace ChartLayer.Labels

open ExactQuantity (value)
open Quantity (isFinite)

variable {α : Type}

/-! ## Packing -/

/-- A label after its turn, and its place unless it is hidden. -/
structure Slot (α : Type) where
  item : LabelRequest α
  place? : Option ℝ

/-- The places of the labels shown. -/
def places (slots : List (Slot α)) : List ℝ := slots.filterMap (·.place?)

/-- The ids of the labels shown, with their places. -/
def shownAt (slots : List (Slot α)) : List (String × ℝ) :=
  slots.filterMap fun slot => slot.place?.map (slot.item.id, ·)

/-- The ids of the labels that found no place. -/
def hiddenIds (slots : List (Slot α)) : List String :=
  (slots.filter (·.place?.isNone)).map (·.item.id)

/-- Each label goes to the least free pixel from its home down, or is hidden if that is below the
pane. -/
inductive Packed (gap height : ℝ) (home? : LabelRequest α → Option ℝ) : List (Slot α) → Prop
  | nil : Packed gap height home? []
  | turn {slots : List (Slot α)} {item : LabelRequest α} {home y : ℝ} :
      Packed gap height home? slots → home? item = some home →
      IsLeast (Free gap home (places slots)) y →
      Packed gap height home? (slots ++ [⟨item, if y ≤ height then some y else none⟩])

section Packing

variable {gap height : ℝ} {homeOf : LabelRequest α → Option ℝ} {slots : List (Slot α)}

@[simp]
theorem places_append_turn {item : LabelRequest α} {place? : Option ℝ} :
    places (slots ++ [⟨item, place?⟩]) = places slots ++ place?.toList := by
  cases place? <;> simp [places]

@[simp]
theorem shownAt_append_turn {item : LabelRequest α} {place? : Option ℝ} :
    shownAt (slots ++ [⟨item, place?⟩]) = shownAt slots ++ (place?.map (item.id, ·)).toList := by
  cases place? <;> simp [shownAt]

@[simp]
theorem hiddenIds_append_turn {item : LabelRequest α} {place? : Option ℝ} :
    hiddenIds (slots ++ [⟨item, place?⟩]) =
      hiddenIds slots ++ if place?.isNone then [item.id] else [] := by
  cases place? <;> simp [hiddenIds]

theorem map_snd_shownAt : (shownAt slots).map Prod.snd = places slots := by
  simp [shownAt, places, List.map_filterMap, Function.comp_def]

/-- The last turn. -/
theorem Packed.of_concat {slot : Slot α} (h : Packed gap height homeOf (slots ++ [slot])) :
    ∃ home y, Packed gap height homeOf slots ∧ homeOf slot.item = some home ∧
      IsLeast (Free gap home (places slots)) y ∧
      slot.place? = if y ≤ height then some y else none := by
  generalize hall : slots ++ [slot] = all at h
  cases h with
  | nil => exact absurd hall (List.concat_ne_nil _ _)
  | turn hbefore hitem hleast =>
    obtain ⟨rfl, hslot⟩ := List.append_inj' hall rfl
    cases hslot
    exact ⟨_, _, hbefore, hitem, hleast, rfl⟩

/-- Shown labels lie in the pane. -/
theorem Packed.places_in_pane (h : Packed gap height homeOf slots)
    (hhome : ∀ item home, homeOf item = some home → 0 ≤ home) :
    ∀ y ∈ places slots, 0 ≤ y ∧ y ≤ height := by
  induction h with
  | nil => exact fun y hy => nomatch hy
  | turn _ hitem hleast ih =>
    rw [places_append_turn]
    refine fun y hy => (List.mem_append.mp hy).elim (ih y) fun hy => ?_
    obtain ⟨hin, rfl⟩ := by simpa using hy
    exact ⟨(hhome _ _ hitem).trans hleast.1.1, hin⟩

/-- Shown labels keep the gap from each other. -/
theorem Packed.places_apart (h : Packed gap height homeOf slots) :
    (places slots).Pairwise fun p q => gap ≤ |p - q| := by
  induction h with
  | nil => exact List.Pairwise.nil
  | turn _ _ hleast ih =>
    rw [places_append_turn]
    refine List.pairwise_append.mpr ⟨ih, by split <;> simp, fun p hp q hq => ?_⟩
    obtain ⟨-, rfl⟩ := by simpa using hq
    rw [abs_sub_comm]
    exact hleast.1.2 p hp

end Packing

/-! ## The labels near the pane -/

section Layout

variable [ExactQuantity α]

/-- Where a label belongs: the pixel of its price, rounded and held in the pane, unless there is no
such pixel or it is farther off the pane than the margin. -/
noncomputable def home? (rules : LabelRules α) (height : ℝ) (map : PriceMap α)
    (item : LabelRequest α) : Option ℝ :=
  if isFinite item.anchor then
    (map.pixelOf item.anchor).bind fun pixel =>
      let y := nearest (value pixel)
      if y < -value rules.margin ∨ height + value rules.margin < y then none
      else some (max 0 (min y height))
  else none

/-- A pane that knows where its prices are, and rules that make sense. -/
structure Usable (rules : LabelRules α) (map : PriceMap α) (height : α) : Prop where
  measured : map.paneHeight = some height
  height_pos : isFinite height = true ∧ 0 < value height
  gap_pos : isFinite rules.minGap = true ∧ 0 < value rules.minGap
  margin_finite : isFinite rules.margin = true
  pixel_finite : ∀ price, isFinite price = true →
    ∃ pixel, map.pixelOf price = some pixel ∧ isFinite pixel = true

/-- What became of the labels. Those near the pane had their turn by importance and are packed; the
others are hidden. -/
structure Outcome (rules : LabelRules α) (map : PriceMap α) (height : α)
    (items : List (LabelRequest α)) (result : LabelLayout α) (slots : List (Slot α)) : Prop where
  turns : (slots.map (·.item)).Perm
    (items.filter fun i => (home? rules (value height) map i).isSome)
  by_importance : (slots.map (·.item)).Pairwise fun a b => (importanceOrder a b).isLE = true
  packed : Packed (value rules.minGap) (value height) (home? rules (value height) map) slots
  placed : (result.placed.map fun p => (p.id, value p.y)).Perm (shownAt slots)
  hidden : result.hidden.Perm
    ((items.filter fun i => (home? rules (value height) map i).isNone).map (·.id) ++
      hiddenIds slots)
  in_pane : ∀ p ∈ result.placed, isFinite p.y = true ∧ 0 ≤ value p.y ∧ value p.y ≤ value height
  apart : result.placed.Pairwise fun p q => value rules.minGap ≤ |value p.y - value q.y|

variable {rules : LabelRules α} {map : PriceMap α} {height : α}

theorem home?_nonneg {h : ℝ} {item : LabelRequest α} {home : ℝ}
    (hhome : home? rules h map item = some home) : 0 ≤ home := by
  unfold home? at hhome
  split at hhome
  · obtain ⟨pixel, -, hpixel⟩ := Option.bind_eq_some_iff.mp hhome
    dsimp only at hpixel
    split at hpixel
    · cases hpixel
    · cases hpixel
      exact le_max_left 0 _
  · cases hhome

/-- The pixel that is worked out for one label is its home. -/
theorem home?_eq_desired? (h : Usable rules map height) {item : LabelRequest α} {pixel : α}
    (hanchor : isFinite item.anchor = true) (hmapped : map.pixelOf item.anchor = some pixel)
    (hpixel : isFinite pixel = true) :
    home? rules (value height) map item =
        (desired? rules height (Quantity.round pixel)).map value ∧
      ∀ y ∈ desired? rules height (Quantity.round pixel), isFinite y = true := by
  obtain ⟨hround, hnearest⟩ := ExactQuantity.round_exact hpixel
  obtain ⟨hneg, hnegValue⟩ := ExactQuantity.neg_exact h.margin_finite
  obtain ⟨hsum, hsumValue⟩ := ExactQuantity.add_exact h.height_pos.1 h.margin_finite
  obtain ⟨hzero, hzeroValue⟩ := ExactQuantity.zero_exact (α := α)
  obtain ⟨hclamp, hclampValue⟩ := ExactQuantity.clamp_exact hround hzero h.height_pos.1
    (hzeroValue.trans_le h.height_pos.2.le)
  generalize Quantity.round pixel = y at hround hnearest hclamp hclampValue ⊢
  have hoff : (y < -rules.margin ∨ height + rules.margin < y) ↔
      (nearest (value pixel) < -value rules.margin ∨
        value height + value rules.margin < nearest (value pixel)) := by
    rw [← hnearest, ← hnegValue, ← hsumValue]
    exact or_congr (ExactQuantity.lt_exact hround hneg) (ExactQuantity.lt_exact hsum hround)
  unfold home? desired?
  rw [if_pos hanchor, hmapped, Option.bind_some]
  dsimp only
  by_cases hout : y < -rules.margin ∨ height + rules.margin < y
  · rw [if_pos hout, if_pos (hoff.mp hout)]
    exact ⟨rfl, fun y hy => nomatch hy⟩
  · rw [if_neg hout, if_neg (mt hoff.mpr hout), Option.map_some, hclampValue, hzeroValue, hnearest]
    exact ⟨rfl, fun y hy => Option.mem_some.mp hy ▸ hclamp⟩

/-- The pixel that a label asks for is its home. -/
theorem home?_eq_asked? (h : Usable rules map height) (item : LabelRequest α) :
    home? rules (value height) map item = (asked? rules height map item.anchor).map value ∧
      ∀ y ∈ asked? rules height map item.anchor, isFinite y = true := by
  by_cases hanchor : isFinite item.anchor = true
  · obtain ⟨pixel, hmapped, hpixel⟩ := h.pixel_finite _ hanchor
    have hasked : asked? rules height map item.anchor =
        desired? rules height (Quantity.round pixel) := by
      simp [asked?, hanchor, hmapped]
    rw [hasked]
    exact home?_eq_desired? h hanchor hmapped hpixel
  · have hasked : asked? rules height map item.anchor = none := if_neg hanchor
    have hhome : home? rules (value height) map item = none := if_neg hanchor
    rw [hasked, hhome]
    exact ⟨rfl, fun y hy => absurd hy (Option.not_mem_none y)⟩

/-- All labels are looked at, and those near the pane come with their homes. -/
theorem visible_eq (h : Usable rules map height) (items : List (LabelRequest α)) :
    ∃ shown hidden, visible rules height map items = .ok (shown, hidden) ∧
      shown.map Prod.fst = items.filter (fun i => (home? rules (value height) map i).isSome) ∧
      hidden = (items.filter fun i => (home? rules (value height) map i).isNone).map (·.id) ∧
      ∀ s ∈ shown, home? rules (value height) map s.1 = some (value s.2) ∧ isFinite s.2 = true := by
  have hmapped : ∀ item ∈ items, Mapped map item := by
    intro item hitem hanchor
    obtain ⟨pixel, hpixel, -⟩ := h.pixel_finite _ hanchor
    rw [hpixel]
    rfl
  have hhome (item : LabelRequest α) := (home?_eq_asked? h item).1
  refine ⟨_, _, visible_of_mapped hmapped, ?_, ?_, fun turn hturn => ?_⟩
  · simp only [map_fst_turns, hhome, Option.isSome_map]
  · simp only [passedOver, hhome, Option.isNone_map]
  · obtain ⟨-, hy⟩ := mem_turns.mp hturn
    rw [hhome, hy]
    exact ⟨rfl, (home?_eq_asked? h turn.1).2 _ hy⟩

/-! ## One label after the other -/

/-- The progress knows of the slots: which places are taken, and what becomes of each label. -/
structure Tracks (rules : LabelRules α) (outside : List String) (progress : Progress α)
    (slots : List (Slot α)) : Prop where
  taken_finite : ∀ p ∈ progress.taken, isFinite p = true
  taken_perm : (progress.taken.map value).Perm (places slots)
  spaced : Spaced (value rules.minGap) (progress.taken.map value)
  placed_finite : ∀ p ∈ progress.placed, isFinite p.y = true
  placed_eq : (progress.placed.map fun p => (p.id, value p.y)) = shownAt slots
  hidden_eq : progress.hidden = outside ++ hiddenIds slots

theorem free_congr {gap start : ℝ} {taken others : List ℝ} (h : taken.Perm others) :
    Free gap start taken = Free gap start others := by
  simp only [Free, h.mem_iff]

/-- **One label.** It takes the least free pixel from its home down, or is hidden if that is below
the pane. -/
theorem Tracks.place {outside : List String} {progress : Progress α} {slots : List (Slot α)}
    (h : Tracks rules outside progress slots) (husable : Usable rules map height)
    {item : LabelRequest α × α} (hitem : isFinite item.2 = true) :
    ∃ y, IsLeast (Free (value rules.minGap) (value item.2) (places slots)) y ∧
      Tracks rules outside (Labels.place rules height progress item)
        (slots ++ [⟨item.1, if y ≤ value height then some y else none⟩]) := by
  obtain ⟨hgap, hpos⟩ := husable.gap_pos
  obtain ⟨hend, hleast⟩ := isLeast_pushDown hgap hpos h.taken_finite h.spaced hitem
  -- free among the places taken, from the top down, is free among those given out, turn by turn
  have hfree := hleast.1
  rw [free_congr h.taken_perm] at hleast
  refine ⟨_, hleast, ?_⟩
  have hbelow : height < pushDown rules.minGap progress.taken item.2 ↔
      value height < value (pushDown rules.minGap progress.taken item.2) :=
    ExactQuantity.lt_exact husable.height_pos.1 hend
  unfold Labels.place
  dsimp only
  by_cases hhidden : height < pushDown rules.minGap progress.taken item.2
  · rw [if_pos hhidden, if_neg (not_le.mpr (hbelow.mp hhidden))]
    exact
      { h with
        taken_perm := by simpa using h.taken_perm
        placed_eq := by simpa using h.placed_eq
        hidden_eq := by simp [h.hidden_eq] }
  · rw [if_neg hhidden, if_pos (not_lt.mp (mt hbelow.mpr hhidden))]
    exact
      { taken_finite := fun p hp => by
          rcases List.mem_cons.mp (insertPlace_perm.mem_iff.mp hp) with rfl | hp
          · exact hend
          · exact h.taken_finite p hp
        taken_perm := by
          rw [places_append_turn]
          exact (insertPlace_perm.map value).trans
            ((h.taken_perm.cons _).trans (List.perm_append_singleton _ _).symm)
        spaced := spaced_insertPlace hpos h.taken_finite h.spaced hend hfree
        placed_finite := by simpa [or_imp, forall_and, hend] using h.placed_finite
        placed_eq := by simp [h.placed_eq]
        hidden_eq := by simp [h.hidden_eq] }

/-- **All labels.** Whatever the order of their turns, they are packed. -/
theorem packed_foldl (h : Usable rules map height) {shown : List (LabelRequest α × α)}
    (hshown : ∀ s ∈ shown,
      home? rules (value height) map s.1 = some (value s.2) ∧ isFinite s.2 = true)
    (outside : List String) :
    ∃ slots progress, shown.foldl (place rules height) { hidden := outside } = progress ∧
      slots.map (·.item) = shown.map Prod.fst ∧
      Packed (value rules.minGap) (value height) (home? rules (value height) map) slots ∧
      Tracks rules outside progress slots := by
  -- on the last turn, as places are free with regard to the turns before
  induction shown using List.reverseRecOn with
  | nil =>
    refine ⟨[], _, rfl, rfl, .nil, ?_⟩
    exact
      { taken_finite := fun p hp => nomatch hp
        taken_perm := .nil
        spaced := .nil
        placed_finite := fun p hp => nomatch hp
        placed_eq := rfl
        hidden_eq := (List.append_nil outside).symm }
  | append_singleton before item ih =>
    obtain ⟨hbefore, hitem⟩ := List.forall_mem_append.mp hshown
    obtain ⟨hhome, hfinite⟩ := hitem item (List.mem_singleton_self item)
    obtain ⟨slots, progress, hfold, horder, hpacked, htracks⟩ := ih hbefore
    obtain ⟨y, hleast, hnext⟩ := htracks.place h hfinite
    refine ⟨_, place rules height progress item, ?_, ?_, hpacked.turn hhome hleast, hnext⟩
    · rw [List.foldl_append, hfold]
      rfl
    · simp [horder]

/-! ## The layout -/

theorem measuredHeight_eq (h : Usable rules map height) : measuredHeight map = .ok height := by
  obtain ⟨hzero, hzeroValue⟩ := ExactQuantity.zero_exact (α := α)
  have hpos : (0.0 : α) < height :=
    (ExactQuantity.lt_exact hzero h.height_pos.1).mpr (hzeroValue.trans_lt h.height_pos.2)
  unfold measuredHeight
  rw [h.measured]
  exact if_pos ⟨hpos, h.height_pos.1⟩

instance : Std.TransCmp (Quantity.order (α := α)) := ExactQuantity.order_total

/-- **The packing.** All labels near the pane have their turn, in the order of importance; each goes
to the least pixel from its home down that keeps the gap from those before it, or is hidden if that
is below the pane. So the labels shown lie in the pane and keep the gap from each other. -/
theorem layout_packs (h : Usable rules map height) (items : List (LabelRequest α)) :
    ∃ result slots, layout rules items map = .ok result ∧
      Outcome rules map height items result slots := by
  obtain ⟨shown, outside, hvisible, hshown, rfl, hhome⟩ := visible_eq h items
  have hsorted := List.mergeSort_perm shown fun a b => (importanceOrder a.1 b.1).isLE
  obtain ⟨slots, progress, hfold, hitems, hpacked, htracks⟩ := packed_foldl h
    (fun s hs => hhome s (hsorted.mem_iff.mp hs))
    ((items.filter fun i => (home? rules (value height) map i).isNone).map (·.id))
  have hplaced := List.mergeSort_perm progress.placed
    fun a b => ((pixelOrder a.y b.y).then (compare a.id b.id)).isLE
  have hat := (hplaced.map fun p => (p.id, value p.y)).trans (.of_eq htracks.placed_eq)
  have hplaces := hat.map Prod.snd
  rw [List.map_map, map_snd_shownAt] at hplaces
  refine ⟨{ placed := _, hidden := progress.hidden.mergeSort fun a b => (compare a b).isLE }, slots,
    ?_, ?turns, ?by_importance, hpacked, hat, ?hidden, fun p hp => ?in_pane, ?apart⟩
  · rw [layout, measuredHeight_eq h]
    simp only [bind, Except.bind, hvisible]
    rw [hfold]
    rfl
  case turns =>
    rw [hitems, ← hshown]
    exact hsorted.map Prod.fst
  case by_importance =>
    rw [hitems, List.pairwise_map]
    exact pairwise_inOrder shown
  case hidden =>
    rw [← htracks.hidden_eq]
    exact List.mergeSort_perm _ _
  case in_pane =>
    refine ⟨htracks.placed_finite p (hplaced.mem_iff.mp hp), ?_⟩
    exact hpacked.places_in_pane (fun _ _ => home?_nonneg) _
      (hplaces.mem_iff.mp (List.mem_map.mpr ⟨p, hp, rfl⟩))
  case apart =>
    exact List.pairwise_map.mp <|
      (hplaces.pairwise_iff fun hpq => by rwa [abs_sub_comm]).mpr hpacked.places_apart

end Layout

/-! ## Two labels at the bottom of a pane -/

/-- A pane of 500 pixels with 100 at the bottom and 110 at the top. -/
noncomputable def tenPrices : PriceMap ℝ where
  paneHeight := some 500
  pixelOf price := some ((110 - price) * 50)
  priceAt _ := none

/-- The usual rules. -/
noncomputable def usualRules : LabelRules ℝ := { minGap := 16, margin := 8 }

noncomputable def minorLabel : LabelRequest ℝ := ⟨"minor", 100, 0, 0⟩

noncomputable def majorLabel : LabelRequest ℝ := ⟨"major", 100, 5, 0⟩

theorem home?_at_bottom : ∀ item ∈ [minorLabel, majorLabel],
    home? usualRules (value (500 : ℝ)) tenPrices item = some 500 := by
  intro item hitem
  have hanchor : item.anchor = 100 := by
    simp only [List.mem_cons, List.not_mem_nil, or_false] at hitem
    rcases hitem with rfl | rfl <;> rfl
  have hbottom : nearest ((110 - 100) * 50) = 500 := by
    have hsum : ((110 - 100) * 50 + 1 / 2 : ℝ) = (500 : ℤ) + 1 / 2 := by norm_num
    rw [nearest, if_neg (by norm_num), hsum, Int.floor_intCast_add]
    norm_num
  rw [home?, hanchor, if_pos (show isFinite (100 : ℝ) = true from rfl)]
  change (if nearest ((110 - 100) * 50) < -8 ∨ (500 : ℝ) + 8 < nearest ((110 - 100) * 50)
    then none else some (max 0 (min (nearest ((110 - 100) * 50)) 500))) = some 500
  rw [hbottom]
  norm_num

section Bottom

variable {result : LabelLayout ℝ} {slots : List (Slot ℝ)}

theorem Outcome.turns_at_bottom
    (h : Outcome usualRules tenPrices 500 [minorLabel, majorLabel] result slots) :
    slots.map (·.item) = [majorLabel, minorLabel] := by
  have hturns := h.turns
  rw [List.filter_eq_self.mpr fun i hi => by rw [home?_at_bottom i hi]; rfl] at hturns
  have hworse : importanceOrder minorLabel majorLabel = .gt := rfl
  have hsorted : [majorLabel, minorLabel].Pairwise fun a b => (importanceOrder a b).isLE = true :=
    List.pairwise_pair.mpr rfl
  refine (hturns.trans (.swap _ _ _)).eq_of_pairwise ?_ h.by_importance hsorted
  intro a b ha hb hab hba
  simp only [hturns.mem_iff, List.mem_cons, List.not_mem_nil, or_false] at ha hb
  rcases ha with rfl | rfl <;> rcases hb with rfl | rfl
  · rw [hworse] at hab
    cases hab
  · rfl
  · rfl
  · rw [hworse] at hba
    cases hba

theorem Outcome.slots_at_bottom
    (h : Outcome usualRules tenPrices 500 [minorLabel, majorLabel] result slots) :
    slots = [⟨majorLabel, some 500⟩, ⟨minorLabel, none⟩] := by
  obtain ⟨first, rest, rfl, hfirst, hrest⟩ := List.map_eq_cons_iff.mp h.turns_at_bottom
  obtain ⟨second, others, rfl, hsecond, hothers⟩ := List.map_eq_cons_iff.mp hrest
  cases List.map_eq_nil_iff.mp hothers
  -- the last turn is taken off twice
  have hboth : Packed _ _ _ ([first] ++ [second]) := h.packed
  obtain ⟨home₂, y₂, hone, hhome₂, hleast₂, hplace₂⟩ := hboth.of_concat
  replace hone : Packed _ _ _ ([] ++ [first]) := hone
  obtain ⟨home₁, y₁, -, hhome₁, hleast₁, hplace₁⟩ := hone.of_concat
  rw [home?_at_bottom _ (by simp [hfirst]), Option.some.injEq] at hhome₁
  rw [home?_at_bottom _ (by simp [hsecond]), Option.some.injEq] at hhome₂
  subst hhome₁ hhome₂
  have hy₁ : y₁ = 500 :=
    hleast₁.unique ⟨⟨le_rfl, fun p hp => nomatch hp⟩, fun v hv => hv.1⟩
  rw [hy₁, if_pos (show (500 : ℝ) ≤ value (500 : ℝ) from le_rfl)] at hplace₁
  have hapart : (16 : ℝ) ≤ |y₂ - 500| := hleast₂.1.2 500 (by simp [places, hplace₁])
  have hbelow : ¬y₂ ≤ value (500 : ℝ) := by
    intro hle
    have hat : y₂ = 500 := le_antisymm hle hleast₂.1.1
    norm_num [hat] at hapart
  rw [if_neg hbelow] at hplace₂
  rw [← hfirst, ← hsecond, ← hplace₁, ← hplace₂]

end Bottom

/-- Both belong at the bottom. The more important one gets there, and for the other there is no
place left, although it was asked for first. -/
theorem layout_of_labels_at_bottom :
    Usable usualRules tenPrices 500 ∧
    ∃ result slots, layout usualRules [minorLabel, majorLabel] tenPrices = .ok result ∧
      Outcome usualRules tenPrices 500 [minorLabel, majorLabel] result slots ∧
      slots = [⟨majorLabel, some 500⟩, ⟨minorLabel, none⟩] ∧ result.hidden = ["minor"] := by
  have husable : Usable usualRules tenPrices 500 :=
    { measured := rfl
      height_pos := ⟨rfl, show (0 : ℝ) < 500 by norm_num⟩
      gap_pos := ⟨rfl, show (0 : ℝ) < 16 by norm_num⟩
      margin_finite := rfl
      pixel_finite := fun price _ => ⟨(110 - price) * 50, rfl, rfl⟩ }
  obtain ⟨result, slots, hlayout, houtcome⟩ := layout_packs husable [minorLabel, majorLabel]
  have hslots := houtcome.slots_at_bottom
  refine ⟨husable, result, slots, hlayout, houtcome, hslots, ?_⟩
  have hhidden := houtcome.hidden
  rw [List.filter_eq_nil_iff.mpr fun i hi => by simp [home?_at_bottom i hi], hslots] at hhidden
  exact List.perm_singleton.mp hhidden

end ChartLayer.Labels
