import ChartLayer.Proofs.Price.Deferral
import ChartLayer.Proofs.Price.ExactRange

/-!
# A drag goes by where the pointer is

The pointer moves more often than frames are drawn, and only its last place before a frame is kept.
So in a drag the range must not depend on the moves between. It does not: each move sets it anew,
from the range at the beginning of the drag and the way from there.

* `handle_engaged`: one move in an engaged drag.
* `followAll_concat`: after any moves that are applied, the scale is where the last one puts it.
* `dragged_exact`, `followAll_exact`: when nothing is rounded, every move is applied, and the range
  has moved with the pointer.
* `drag_goes_by_position`: both, and that the price that was grabbed stays under the pointer.
-/

namespace ChartLayer.PriceScale

variable {α : Type}

/-- A place that the pointer moves to, and the pane as it is then. -/
structure Move (α : Type) where
  x : α
  y : α
  map : PriceMap α

variable [Quantity α]

/-- Moves one after the other, each handled as it comes: what they answer, and the scale after
them. -/
def followAll : List (Move α) → PriceScale α → List GestureEffect × PriceScale α
  | [], s => ([], s)
  | move :: rest, s =>
    let (effect, s) := s.handle (.pointerMove move.x move.y) move.map
    let (effects, s) := followAll rest s
    (effect :: effects, s)

variable {s : PriceScale α} {startY height : α} {origin : PriceRange α} {map : PriceMap α}

/-! ## One move -/

/-- In an engaged drag a move is deferred if the range cannot follow it, and sets the range if it
can. The range before makes no difference to that. -/
theorem handle_engaged (hdrag : s.drag = .engaged startY origin)
    (hheight : map.paneHeight = some height) (x y : α) :
    s.handle (.pointerMove x y) map =
      match dragged s.rules origin (y - startY) height with
      | .ok next => ({ rangeChanged := !(s.manual.any fun r => r.sameAs next) }, s.applyManual next)
      | .error _ => ({ deferred := true }, { s with deferred := some (.pointerMove x y) }) := by
  have hfollows : s.apply (.pointerMove x y) map = s.followDrag origin (y - startY) height := by
    change s.followPointer x y map = _
    unfold followPointer
    rw [hdrag]
    dsimp only
    rw [hheight]
  unfold handle
  rw [hfollows, followDrag]
  cases dragged s.rules origin (y - startY) height <;> rfl

theorem handle_engaged_ok (hdrag : s.drag = .engaged startY origin)
    (hheight : map.paneHeight = some height) {x y : α} {next : PriceRange α}
    (hnext : dragged s.rules origin (y - startY) height = .ok next) :
    (s.handle (.pointerMove x y) map).1.deferred = false ∧
      (s.handle (.pointerMove x y) map).2 = s.applyManual next := by
  rw [handle_engaged hdrag hheight, hnext]
  exact ⟨rfl, rfl⟩

theorem exists_of_applied (hdrag : s.drag = .engaged startY origin)
    (hheight : map.paneHeight = some height) {x y : α}
    (happlied : (s.handle (.pointerMove x y) map).1.deferred = false) :
    ∃ next, dragged s.rules origin (y - startY) height = .ok next := by
  rw [handle_engaged hdrag hheight] at happlied
  cases hnext : dragged s.rules origin (y - startY) height with
  | ok next => exact ⟨next, rfl⟩
  | error what =>
    rw [hnext] at happlied
    cases happlied

/-! ## Any moves -/

/-- **The last move decides.** The scale differs from the one at the beginning in its range alone,
and that is the one for the last move. -/
theorem followAll_concat (hdrag : s.drag = .engaged startY origin) {moves : List (Move α)}
    {last : Move α} (hheight : ∀ move ∈ moves ++ [last], move.map.paneHeight = some height)
    (happlied : ∀ effect ∈ (s.followAll (moves ++ [last])).1, effect.deferred = false) :
    ∃ next, dragged s.rules origin (last.y - startY) height = .ok next ∧
      (s.followAll (moves ++ [last])).2 = s.applyManual next := by
  induction moves generalizing s with
  | nil =>
    have hlast := hheight last (.head _)
    obtain ⟨next, hnext⟩ := exists_of_applied hdrag hlast (happlied _ (.head _))
    exact ⟨next, hnext, (handle_engaged_ok hdrag hlast hnext).2⟩
  | cons move rest ih =>
    have hmove := hheight move (.head _)
    obtain ⟨first, hfirst⟩ := exists_of_applied hdrag hmove (happlied _ (.head _))
    have hstep := (handle_engaged_ok (x := move.x) hdrag hmove hfirst).2
    have hrest : ∀ effect ∈ ((s.applyManual first).followAll (rest ++ [last])).1,
        effect.deferred = false := by
      rw [← hstep]
      exact fun effect heffect => happlied effect (.tail _ heffect)
    obtain ⟨next, hnext, hafter⟩ := ih (s := s.applyManual first) hdrag
      (fun move hmem => hheight move (.tail _ hmem)) hrest
    have hrun : (s.followAll (move :: rest ++ [last])).2 =
        ((s.handle (.pointerMove move.x move.y) move.map).2.followAll (rest ++ [last])).2 := rfl
    rw [hstep] at hrun
    exact ⟨next, hnext, hrun.trans hafter⟩

/-! ## Among the reals -/

section Exact

open PriceRange (leastSpan)

variable {s : PriceScale ℝ} {startY h : ℝ} {origin : PriceRange ℝ}

/-- The range at the beginning of a drag, after the pointer has gone down by `dy` in a pane of
height `h`. -/
noncomputable def carried (panFactor : ℝ) (origin : PriceRange ℝ) (dy h : ℝ) : PriceRange ℝ :=
  let offset := panFactor * dy / h * origin.span
  ⟨origin.min + offset, origin.max + offset⟩

theorem dragged_exact (rules : GestureRules ℝ) (hpos : 0 < h) (hspan : leastSpan ≤ origin.span)
    (dy : ℝ) : dragged rules origin dy h = .ok (carried rules.panFactor origin dy h) := by
  have hoffset : -(-dy) / h * origin.span * rules.panFactor =
      rules.panFactor * dy / h * origin.span := by ring
  have hdistance : panDistance? (-dy) h origin.span rules.panFactor =
      some (rules.panFactor * dy / h * origin.span) := by
    rw [panDistance?_exact hpos, hoffset]
  have hmoved := PriceRange.movedBy?_exact hspan (rules.panFactor * dy / h * origin.span)
  unfold dragged
  change (need .emptyPane (panDistance? (-dy) h origin.span rules.panFactor) >>= _) = _
  rw [hdistance]
  exact congrArg (need .dragOffset) hmoved

/-- Nothing is in the way of a move, so none is deferred. -/
theorem followAll_exact (hdrag : s.drag = .engaged startY origin) (hpos : 0 < h)
    (hspan : leastSpan ≤ origin.span) {moves : List (Move ℝ)}
    (hheight : ∀ move ∈ moves, move.map.paneHeight = some h) :
    ∀ effect ∈ (s.followAll moves).1, effect.deferred = false := by
  induction moves generalizing s with
  | nil => exact fun effect heffect => nomatch heffect
  | cons move rest ih =>
    obtain ⟨hdone, hafter⟩ := handle_engaged_ok (x := move.x) hdrag (hheight move (.head _))
      (dragged_exact s.rules hpos hspan (move.y - startY))
    have hengaged : (s.handle (.pointerMove move.x move.y) move.map).2.drag =
        .engaged startY origin := by
      rw [hafter]
      exact hdrag
    intro effect heffect
    cases heffect with
    | head => exact hdone
    | tail _ hmem => exact ih hengaged (fun move hmem => hheight move (.tail _ hmem)) effect hmem

/-- The price at a place of the pane is drawn as far below it as the range has been carried. -/
theorem pixelOf_carried (hpos : 0 < h) (hspan : leastSpan ≤ origin.span) (y dy : ℝ) :
    ((PriceMap.linear (some h) (some origin)).priceAt y).bind
      (PriceMap.linear (some h) (some (carried 1 origin dy h))).pixelOf = some (y + dy) := by
  have hne : origin.span ≠ 0 := (PriceRange.span_pos hspan).ne'
  have hkept : (carried 1 origin dy h).span = origin.span :=
    add_sub_add_right_eq_sub origin.max origin.min _
  have hmax : (carried 1 origin dy h).max = origin.max + 1 * dy / h * origin.span := rfl
  rw [PriceMap.linear_priceAt hpos, Option.bind_some, PriceMap.linear_pixelOf hpos, hkept, hmax]
  congr 1
  field_simp
  ring

theorem carried_zero (panFactor : ℝ) (origin : PriceRange ℝ) (h : ℝ) :
    carried panFactor origin 0 h = origin := by
  unfold carried
  simp only [mul_zero, zero_div, zero_mul, add_zero]

end Exact

/-! ## The drag -/

/-- **Where the pointer is.** Moves in an engaged drag, over a pane whose height stays, none of them
deferred: the scale afterwards is as after the last move alone. When nothing is rounded none is
deferred, and the range is that at the beginning, carried as far as the pointer; if the drag moves
prices at the speed of the pointer, the price where the drag began is drawn where the pointer is,
and where the drag began it has the range of the beginning again. -/
theorem drag_goes_by_position :
    (∀ {α : Type} [Quantity α] {s : PriceScale α} {startY height : α} {origin : PriceRange α},
      s.drag = .engaged startY origin → ∀ (moves : List (Move α)) (last : Move α),
      (∀ move ∈ moves ++ [last], move.map.paneHeight = some height) →
      (∀ effect ∈ (s.followAll (moves ++ [last])).1, effect.deferred = false) →
      (s.followAll (moves ++ [last])).2 = (s.followAll [last]).2) ∧
    (∀ {s : PriceScale ℝ} {startY h : ℝ} {origin : PriceRange ℝ},
      s.drag = .engaged startY origin → 0 < h → PriceRange.leastSpan ≤ origin.span →
      ∀ (moves : List (Move ℝ)) (last : Move ℝ),
      (∀ move ∈ moves ++ [last], move.map.paneHeight = some h) →
      let offset := s.rules.panFactor * (last.y - startY) / h * origin.span
      let next : PriceRange ℝ := ⟨origin.min + offset, origin.max + offset⟩
      (∀ effect ∈ (s.followAll (moves ++ [last])).1, effect.deferred = false) ∧
      (s.followAll (moves ++ [last])).2.manual = some next ∧
      (s.rules.panFactor = 1 →
        ((PriceMap.linear (some h) (some origin)).priceAt startY).bind
          (PriceMap.linear (some h) (some next)).pixelOf = some last.y) ∧
      (last.y = startY → next = origin)) := by
  constructor
  · intro α _ s startY height origin hdrag moves last hheight happlied
    obtain ⟨next, hnext, hafter⟩ := followAll_concat hdrag hheight happlied
    have hlast := hheight last (List.mem_append_right moves (.head _))
    exact hafter.trans (handle_engaged_ok (x := last.x) hdrag hlast hnext).2.symm
  · intro s startY h origin hdrag hpos hspan moves last hheight offset next
    have hnext : next = carried s.rules.panFactor origin (last.y - startY) h := rfl
    have happlied := followAll_exact hdrag hpos hspan hheight
    refine ⟨happlied, ?_, ?_, ?_⟩
    · obtain ⟨reached, hreached, hafter⟩ := followAll_concat hdrag hheight happlied
      rw [dragged_exact s.rules hpos hspan] at hreached
      cases hreached
      exact congrArg PriceScale.manual hafter
    · intro hspeed
      rw [hnext, hspeed, pixelOf_carried hpos hspan, add_sub_cancel]
    · intro hback
      rw [hnext, hback, sub_self, carried_zero]

/-- A drag that began 100 pixels below the top of a pane with prices from 100 to 110. -/
def midDrag : PriceScale Float :=
  { rules := ({} : Settings).gestures, drag := .engaged 100.0 ⟨100.0, 110.0⟩ }

noncomputable def exactMidDrag : PriceScale ℝ :=
  { rules := .exact, drag := .engaged 100.0 .tens }

/-- Down, far up, and down again to 100 pixels below where the drag began. -/
theorem drag_goes_by_position_of_three_moves :
    (let moves : List (Move Float) := [⟨80.0, 150.0, measuredPane⟩, ⟨90.0, 7.25, measuredPane⟩]
    let last : Move Float := ⟨80.0, 200.0, measuredPane⟩
    (∀ effect ∈ (midDrag.followAll (moves ++ [last])).1, effect.deferred = false) ∧
      (midDrag.followAll (moves ++ [last])).2 = (midDrag.followAll [last]).2) ∧
    (let pane : PriceMap ℝ := .linear (some 500) none
    (exactMidDrag.followAll [⟨80, 150, pane⟩, ⟨90, 7, pane⟩, ⟨80, 200, pane⟩]).2.manual =
      some ⟨102, 112⟩) := by
  constructor
  · intro moves last
    have hheight : ∀ move ∈ moves ++ [last], move.map.paneHeight = some 500.0 := by decide +kernel
    have happlied : ∀ effect ∈ (midDrag.followAll (moves ++ [last])).1, effect.deferred = false := by
      decide +kernel
    exact ⟨happlied, drag_goes_by_position.1 rfl moves last hheight happlied⟩
  · intro pane
    have hpane : pane.paneHeight = some 500 := PriceMap.linear_paneHeight (by norm_num) none
    obtain ⟨-, hmanual, -⟩ := drag_goes_by_position.2 (s := exactMidDrag) (h := 500) rfl
      (by norm_num) PriceRange.leastSpan_le_span_tens [⟨80, 150, pane⟩, ⟨90, 7, pane⟩]
      ⟨80, 200, pane⟩ (by simp [hpane])
    refine hmanual.trans ?_
    change some (carried 1.0 .tens (200 - 100.0) 500) = _
    rw [carried, PriceRange.span_tens, PriceRange.tens]
    norm_num

end ChartLayer.PriceScale
