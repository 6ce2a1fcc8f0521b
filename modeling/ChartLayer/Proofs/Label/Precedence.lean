import ChartLayer.Proofs.Label.Identities
import ChartLayer.Proofs.Number.TotalOrder

/-!
# Precedence among labels

A label that comes later in the order of importance has its turn later, and a turn leaves the labels
before it alone. So what becomes of a label is decided by the labels up to it: it stays as it is
when any of the others is added or taken away.

* `inOrder_eq_append`: the turns up to a label, then all others.
* `mem_placed_iff_upTo`, `mem_hidden_iff_upTo`: so they decide what becomes of it.
* `layout_by_precedence`: the layout of those labels only, and the layout without a later one.
-/

namespace ChartLayer

/-- Both layouts show a label at the same place, or not at all, and hide it or not. -/
def LabelLayout.SameFor {α : Type} (id : String) (a b : LabelLayout α) : Prop :=
  a.place? id = b.place? id ∧ (id ∈ a.hidden ↔ id ∈ b.hidden)

namespace Labels

variable {α : Type} [Quantity α] {rules : LabelRules α} {height : α} {map : PriceMap α}
  {items others : List (LabelRequest α)} {x : LabelRequest α} {result : LabelLayout α}

/-- The labels that come no later than `x` in the order of importance. -/
def upTo (x : LabelRequest α) (items : List (LabelRequest α)) : List (LabelRequest α) :=
  items.filter fun item => (importanceOrder item x).isLE

theorem turns_filter (p : LabelRequest α → Bool) :
    turns rules height map (items.filter p) =
      (turns rules height map items).filter fun turn => p turn.1 := by
  induction items with
  | nil => rfl
  | cons item rest ih =>
    rw [turns_cons, List.filter_append, ← ih]
    cases hp : p item <;> cases h : asked? rules height map item.anchor <;> simp [hp, h]

theorem id_eq_of_tie {a b : LabelRequest α} (h : importanceOrder a b = .eq) : a.id = b.id := by
  unfold importanceOrder at h
  simp only [Ordering.then_eq_eq] at h
  exact Std.LawfulEqOrd.eq_of_compare h.2.2.2

theorem id_mem_passedOver_iff (hids : (items.map (·.id)).Nodup) (hx : x ∈ items) :
    x.id ∈ passedOver rules height map items ↔ asked? rules height map x.anchor = none := by
  unfold passedOver
  simp only [List.mem_map, List.mem_filter, Option.isNone_iff_eq_none]
  constructor
  · rintro ⟨item, ⟨hitem, hnone⟩, hid⟩
    rwa [List.inj_on_of_nodup_map hids hitem hx hid] at hnone
  · exact fun hnone => ⟨x, ⟨hx, hnone⟩, rfl⟩

section Order

variable [Std.TransCmp (Quantity.order (α := α))]

/-- **The turns up to a label.** They come first, as they would without the others, and no other one
is the turn of a label with its id. -/
theorem inOrder_eq_append (rules : LabelRules α) (height : α) (map : PriceMap α)
    (hids : (items.map (·.id)).Nodup) (hx : x ∈ items) :
    ∃ later, inOrder (turns rules height map items) =
        inOrder (turns rules height map (upTo x items)) ++ later ∧
      ∀ turn ∈ later, turn.1.id ≠ x.id := by
  let p := fun turn : LabelRequest α × α => (importanceOrder turn.1 x).isLE
  have hties : ∀ a ∈ turns rules height map items, ∀ b ∈ turns rules height map items,
      importanceOrder a.1 b.1 = .eq → a = b := by
    intro a ha b hb htie
    obtain ⟨hamem, hay⟩ := mem_turns.mp ha
    obtain ⟨hbmem, hby⟩ := mem_turns.mp hb
    have hitem : a.1 = b.1 := 
      List.inj_on_of_nodup_map hids hamem hbmem (id_eq_of_tie htie)
    rw [hitem, hby, Option.some.injEq] at hay
    exact Prod.ext hitem hay.symm
  have hupTo : inOrder (turns rules height map (upTo x items)) =
      (inOrder (turns rules height map items)).filter p := by
    rw [upTo, turns_filter]
    exact (Sorted.filter_mergeSort hties p).symm
  have hsorted : (inOrder (turns rules height map items)).Pairwise
      fun a b => p b = true → p a = true :=
    (pairwise_inOrder _).imp fun hab hbx => Std.TransCmp.isLE_trans hab hbx
  refine ⟨(inOrder (turns rules height map items)).filter fun turn => !p turn, ?_, ?_⟩
  · rw [hupTo]
    exact (Sorted.filter_append_filter_not hsorted).symm
  · intro turn hturn hid
    obtain ⟨hmem, hlater⟩ := List.mem_filter.mp hturn
    obtain ⟨hitem, -⟩ := mem_turns.mp ((inOrder_perm _).mem_iff.mp hmem)
    have hself : p turn = true := by
      simp only [p, List.inj_on_of_nodup_map hids hitem hx hid]
      exact Std.ReflCmp.isLE_rfl
    simp [hself] at hlater

/-! ## What becomes of a label -/

theorem mem_placed_iff_upTo (hids : (items.map (·.id)).Nodup) (hx : x ∈ items) {y : α} :
    ⟨x.id, y⟩ ∈ (afterTurns rules height map items).placed ↔
      ⟨x.id, y⟩ ∈ ((inOrder (turns rules height map (upTo x items))).foldl
        (place rules height) {}).placed := by
  obtain ⟨later, happend, hlater⟩ := inOrder_eq_append rules height map hids hx
  rw [afterTurns_eq, happend, List.foldl_append]
  exact mem_placed_foldl hlater _

theorem mem_hidden_iff_upTo (hids : (items.map (·.id)).Nodup) (hx : x ∈ items) :
    x.id ∈ (afterTurns rules height map items).hidden ↔
      asked? rules height map x.anchor = none ∨
        x.id ∈ ((inOrder (turns rules height map (upTo x items))).foldl
          (place rules height) {}).hidden := by
  obtain ⟨later, happend, hlater⟩ := inOrder_eq_append rules height map hids hx
  rw [afterTurns_eq, happend, List.foldl_append, List.mem_append, id_mem_passedOver_iff hids hx,
    mem_hidden_foldl hlater]

/-- Two layouts of labels that are the same up to `x` agree on `x`. -/
theorem sameFor_of_upTo_eq {result' : LabelLayout α} (hids : (items.map (·.id)).Nodup)
    (hothers : (others.map (·.id)).Nodup) (hx : x ∈ items) (hx' : x ∈ others)
    (h : layout rules items map = .ok result) (h' : layout rules others map = .ok result')
    (hupTo : upTo x items = upTo x others) : LabelLayout.SameFor x.id result result' := by
  have hnodup : result.ids.Nodup := (ids_layout h).nodup_iff.mpr hids
  have hnodup' : result'.ids.Nodup := (ids_layout h').nodup_iff.mpr hothers
  obtain ⟨height, hheight, -, rfl⟩ := layout_eq_ok_iff.mp h
  obtain ⟨height', hheight', -, rfl⟩ := layout_eq_ok_iff.mp h'
  obtain rfl : height = height' := by
    rw [hheight] at hheight'
    cases hheight'
    rfl
  constructor
  · apply Option.ext
    intro y
    rw [LabelLayout.place?_eq_some_iff hnodup, LabelLayout.place?_eq_some_iff hnodup']
    simp only [Progress.layout, List.mem_mergeSort]
    rw [mem_placed_iff_upTo hids hx, mem_placed_iff_upTo hothers hx', hupTo]
  · simp only [Progress.layout, List.mem_mergeSort]
    rw [mem_hidden_iff_upTo hids hx, mem_hidden_iff_upTo hothers hx', hupTo]

end Order

/-- **Precedence.** What becomes of a label is what becomes of it among the labels up to it in the
order of importance, whatever else is shown. So no label that precedes another is moved or hidden by
it: not when the other one is added, and not when it is taken away. -/
theorem layout_by_precedence (rules : LabelRules Float) (items : List (LabelRequest Float))
    (map : PriceMap Float) {result : LabelLayout Float} (hids : (items.map (·.id)).Nodup)
    (h : layout rules items map = .ok result) :
    (∀ x ∈ items, ∃ part, layout rules (upTo x items) map = .ok part ∧
      LabelLayout.SameFor x.id result part) ∧
    ∀ before z after, items = before ++ z :: after →
      ∃ without, layout rules (before ++ after) map = .ok without ∧
        ∀ x ∈ before ++ after, importanceOrder x z = .lt →
          LabelLayout.SameFor x.id result without := by
  obtain ⟨height, hheight, hmapped, -⟩ := layout_eq_ok_iff.mp h
  have hpart : ∀ part : List (LabelRequest Float), part.Sublist items →
      (part.map (·.id)).Nodup ∧ ∃ less, layout rules part map = .ok less :=
    fun part hsub => ⟨hids.sublist (hsub.map _),
      _, layout_of_mapped hheight fun item hitem => hmapped item (hsub.mem hitem)⟩
  constructor
  · intro x hx
    obtain ⟨hless, part, hlayout⟩ := hpart (upTo x items) List.filter_sublist
    have hself : (importanceOrder x x).isLE = true := Std.ReflCmp.isLE_rfl
    have hupTo : upTo x items = upTo x (upTo x items) := by
      simp [upTo]
    exact ⟨part, hlayout, sameFor_of_upTo_eq hids hless hx (List.mem_filter.mpr ⟨hx, hself⟩) h
      hlayout hupTo⟩
  · rintro before z after rfl
    have hsub : (before ++ after).Sublist (before ++ z :: after) :=
      List.Sublist.append_left (List.sublist_cons_self z after) before
    obtain ⟨hless, without, hlayout⟩ := hpart _ hsub
    refine ⟨without, hlayout, fun x hx hlt => ?_⟩
    have hlater : (importanceOrder z x).isLE = false := by
      rw [Std.OrientedCmp.gt_of_lt hlt]
      rfl
    have hupTo : upTo x (before ++ z :: after) = upTo x (before ++ after) := by
      simp [upTo, hlater]
    exact sameFor_of_upTo_eq hids hless (hsub.mem hx) hx h hlayout hupTo

/-- Two labels at one price, of which the second one is more important, and one further down. -/
def rivals : List (LabelRequest Float) :=
  [⟨"late", 105.0, 0, 1⟩, ⟨"early", 105.0, 1, 1⟩, ⟨"low", 100.0, 0, 0⟩]

theorem layout_by_precedence_of_rivals :
    ∃ result alone without, layout sixteenApart rivals smallPane = .ok result ∧
      layout sixteenApart [⟨"early", 105.0, 1, 1⟩] smallPane = .ok alone ∧
      LabelLayout.SameFor "early" result alone ∧
      layout sixteenApart rivals.tail smallPane = .ok without ∧
      LabelLayout.SameFor "early" result without := by
  have hheight : measuredHeight smallPane = .ok 500.0 := by decide +kernel
  have hmapped : ∀ item ∈ rivals, Mapped smallPane item := by
    unfold Mapped
    decide +kernel
  have hlayout : layout sixteenApart rivals smallPane = .ok _ := layout_of_mapped hheight hmapped
  obtain ⟨hupTo, hwithout⟩ := layout_by_precedence sixteenApart rivals smallPane (by decide) hlayout
  obtain ⟨alone, halone, hsame⟩ := hupTo ⟨"early", 105.0, 1, 1⟩ (by simp [rivals])
  have hfirst : upTo ⟨"early", 105.0, 1, 1⟩ rivals = [⟨"early", 105.0, 1, 1⟩] := by decide +kernel
  rw [hfirst] at halone
  obtain ⟨without, hless, hkept⟩ := hwithout [] _ _ rfl
  have hlt : importanceOrder (⟨"early", 105.0, 1, 1⟩ : LabelRequest Float)
      ⟨"late", 105.0, 0, 1⟩ = .lt := by decide +kernel
  exact ⟨_, alone, without, hlayout, halone, hsame, hless,
    hkept ⟨"early", 105.0, 1, 1⟩ (by simp) hlt⟩

end Labels

end ChartLayer
