import ChartLayer.Proofs.Price.Gestures
import ChartLayer.Proofs.Price.Range
import ChartLayer.Proofs.Price.WheelZoom
import Mathlib.Data.List.Induction

/-!
# The ranges of a price scale stay valid

A scale takes ranges from outside, always made by `PriceRange.of?`, and makes its own from a pane
that may answer anything: NaN, an infinity, a height below zero. `Sound` says of the three ranges
that a scale holds that they are valid, and every request keeps it. So whatever a wheel zooms has
its ends in order, and the anchor can be held between them.

* `Sound.serve`, `sound_run`: one request, and any run of them.
* `ranges_stay_valid`: what that says of each range, and of the zoom.
-/

namespace ChartLayer

/-- The zoom, with the check of the ends that holding the anchor between them makes: the outer none
is where they are out of order or one of them is NaN, and the program ends. -/
def PriceRange.checkedZoom? (r : PriceRange Float) (anchor factor : Float) :
    Option (Option (PriceRange Float)) :=
  if !factor.isFinite || factor ≤ 0.0 then some none
  else if r.min ≤ r.max then
    let anchor := Quantity.clamp anchor r.min r.max
    some (of? (anchor - (anchor - r.min) * factor) (anchor + (r.max - anchor) * factor))
  else none

namespace PriceScale

/-- The ranges that a scale holds are valid. -/
structure Sound (s : PriceScale Float) : Prop where
  manual : ∀ r ∈ s.manual, r.Valid
  auto : ∀ r ∈ s.auto, r.Valid
  origin : ∀ y r, s.drag = .engaged y r → r.Valid

/-- What is asked of a price scale. A range from outside is given by its two prices. -/
inductive Request where
  | autoscale (prices : Option (Float × Float))
  | applyManual (a b : Float)
  | handle (gesture : Gesture Float) (map : PriceMap Float)
  | retry (map : PriceMap Float)
  | release
  | dropDrag
  | clear

/-- The scale after a request. Prices that make no range do not reach it. -/
def serve (s : PriceScale Float) : Request → PriceScale Float
  | .autoscale prices => (s.autoscale (prices.bind fun p => PriceRange.of? p.1 p.2)).2
  | .applyManual a b =>
    match PriceRange.of? a b with
    | some r => s.applyManual r
    | none => s
  | .handle gesture map => (s.handle gesture map).2
  | .retry map => (s.retry map).2
  | .release => s.release
  | .dropDrag => s.dropDrag.2
  | .clear => s.clear

/-! ## What a gesture makes -/

theorem valid_zoomed {s : PriceScale Float} {y delta : Float} {map : PriceMap Float}
    {r : PriceRange Float} (h : s.zoomed y delta map = .ok (some r)) : r.Valid := by
  obtain ⟨-, seed, price, -, -, hzoom⟩ := zoomed_eq_some_iff.mp h
  exact PriceRange.valid_zoomAbout? hzoom

theorem valid_wheelPanned {s : PriceScale Float} {delta : Float} {map : PriceMap Float}
    {r : PriceRange Float} (h : s.wheelPanned delta map = .ok (some r)) : r.Valid := by
  unfold wheelPanned at h
  split at h
  · cases h
  · obtain ⟨seed, -, h⟩ := exists_of_bind_ok h
    obtain ⟨height, -, h⟩ := exists_of_bind_ok h
    obtain ⟨offset, -, h⟩ := exists_of_bind_ok h
    obtain ⟨next, hnext, h⟩ := exists_of_bind_ok h
    cases h
    exact PriceRange.valid_movedBy? (need_ok hnext)

theorem valid_dragged {rules : GestureRules Float} {origin r : PriceRange Float}
    {dy height : Float} (h : dragged rules origin dy height = .ok r) : r.Valid := by
  obtain ⟨offset, -, h⟩ := exists_of_bind_ok h
  exact PriceRange.valid_movedBy? (need_ok h)

/-! ## Steps -/

theorem sound_fresh (rules : GestureRules Float) : Sound { rules } :=
  ⟨fun _ h => (nomatch h), fun _ h => (nomatch h), fun _ _ h => (nomatch h)⟩

variable {s : PriceScale Float}

theorem Sound.effective (h : Sound s) : ∀ r ∈ s.effective, r.Valid := by
  intro r hr
  unfold PriceScale.effective at hr
  cases hm : s.manual with
  | some m =>
    rw [hm] at hr
    cases hr
    exact h.manual _ hm
  | none =>
    rw [hm] at hr
    exact h.auto r hr

theorem Sound.applyManual (h : Sound s) {r : PriceRange Float} (hr : r.Valid) :
    Sound (s.applyManual r) := by
  refine ⟨?_, h.auto, h.origin⟩
  intro m hm
  cases hm
  exact hr

/-- A drag that has no range, or another one, to start from. -/
theorem Sound.withDrag (h : Sound s) {drag : Drag Float}
    (hdrag : ∀ y r, drag = .engaged y r → r.Valid) : Sound { s with drag } :=
  ⟨h.manual, h.auto, hdrag⟩

/-- A drag starts from the range that is shown. -/
theorem Sound.engage (h : Sound s) {startY : Float} {origin : PriceRange Float}
    (hshown : s.effective = some origin) : Sound { s with drag := .engaged startY origin } := by
  refine h.withDrag ?_
  intro _ r hdrag
  cases hdrag
  exact h.effective _ hshown

theorem Sound.autoscale (h : Sound s) {base : Option (PriceRange Float)}
    (hbase : ∀ r ∈ base, r.Valid) : Sound (s.autoscale base).2 := by
  unfold PriceScale.autoscale
  split
  · exact h
  · refine ⟨h.manual, ?_, h.origin⟩
    intro r hr
    cases base with
    | some b =>
      cases hr
      exact hbase _ rfl
    | none => exact h.auto r hr

theorem Sound.applyWheel (h : Sound s) {next : Except MissingGeometry (Option (PriceRange Float))}
    (hnext : ∀ r, next = .ok (some r) → r.Valid) : Sound (s.applyWheel next).2 := by
  unfold PriceScale.applyWheel
  split
  · exact h.applyManual (hnext _ rfl)
  · exact h
  · exact h

theorem Sound.followPointer (h : Sound s) (x y : Float) (map : PriceMap Float) :
    Sound (s.followPointer x y map).2 := by
  have hstep := s.pointerStep x y map
  generalize s.followPointer x y map = out at hstep ⊢
  cases hstep with
  | idle | lacking => exact h
  | released => exact h.withDrag fun _ _ hdrag => (nomatch hdrag)
  | engaged _ _ _ hshown hnext => exact (h.engage hshown).applyManual (valid_dragged hnext)
  | engagedInVain _ _ hshown => exact h.engage hshown
  | moved _ _ _ hnext => exact h.applyManual (valid_dragged hnext)

theorem Sound.apply (h : Sound s) (g : Gesture Float) (map : PriceMap Float) :
    Sound (s.apply g map).2 := by
  cases g with
  | pointerMove x y => exact h.followPointer x y map
  | wheel y delta modifier region =>
    cases region with
    | priceAxis => exact h.applyWheel fun r hr => valid_zoomed hr
    | plot =>
      cases modifier with
      | true => exact h.applyWheel fun r hr => valid_wheelPanned hr
      | false => exact h
    | outside => exact h
  | pointerDown x y region =>
    cases region <;> exact h.withDrag fun _ _ hdrag => (nomatch hdrag)
  | doubleClick region =>
    cases region with
    | priceAxis => exact ⟨fun _ hr => (nomatch hr), h.auto, h.origin⟩
    | plot | outside => exact h
  | pointerUp | pointerCancel | blur => exact h.withDrag fun _ _ hdrag => (nomatch hdrag)

/-- Whether a gesture is kept for later does not matter to the ranges. -/
theorem Sound.withDeferred (h : Sound s) (deferred : Option (Gesture Float)) :
    Sound { s with deferred } :=
  ⟨h.manual, h.auto, h.origin⟩

theorem Sound.handle (h : Sound s) (g : Gesture Float) (map : PriceMap Float) :
    Sound (s.handle g map).2 := by
  have hafter := h.apply g map
  unfold PriceScale.handle
  split <;> rename_i heq <;> rw [heq] at hafter
  · exact hafter
  · exact hafter.withDeferred _

theorem Sound.retry (h : Sound s) (map : PriceMap Float) : Sound (s.retry map).2 := by
  unfold PriceScale.retry
  split
  · exact h
  · rename_i g _
    have hafter := (h.withDeferred none).apply g map
    split <;> rename_i heq <;> rw [heq] at hafter <;> exact hafter

/-- **One request.** -/
theorem Sound.serve (h : Sound s) (request : Request) : Sound (s.serve request) := by
  cases request with
  | autoscale prices =>
    apply h.autoscale
    intro r hr
    obtain ⟨p, -, hp⟩ := Option.bind_eq_some_iff.mp hr
    exact PriceRange.valid_of? hp
  | applyManual a b =>
    unfold PriceScale.serve
    dsimp only
    split
    · rename_i heq
      exact h.applyManual (PriceRange.valid_of? heq)
    · exact h
  | handle g map => exact h.handle g map
  | retry map => exact h.retry map
  | release => exact ⟨fun _ hr => (nomatch hr), h.auto, h.origin⟩
  | dropDrag => exact h.withDrag fun _ _ hdrag => (nomatch hdrag)
  | clear => exact sound_fresh s.rules

/-- **Any run.** -/
theorem sound_run (rules : GestureRules Float) (requests : List Request) :
    Sound (requests.foldl PriceScale.serve { rules }) := by
  induction requests using List.reverseRecOn with
  | nil => exact sound_fresh rules
  | append_singleton requests request ih =>
    rw [List.foldl_append]
    exact ih.serve request

/-- The ends of a valid range pass the check. -/
theorem checkedZoom?_of_valid {r : PriceRange Float} (h : r.Valid) (anchor factor : Float) :
    r.checkedZoom? anchor factor = some (r.zoomAbout? anchor factor) := by
  obtain ⟨hmin, hmax, hlt⟩ := lt_iff.mp h.min_lt_max
  have hle : r.min ≤ r.max := le_iff.mpr ⟨hmin, hmax, hlt.le⟩
  unfold PriceRange.checkedZoom? PriceRange.zoomAbout?
  rw [if_pos hle]
  split <;> rename_i hfactor
  · exact congrArg some (if_pos hfactor).symm
  · exact congrArg some (if_neg hfactor).symm

/-- **Price ranges stay valid.** After any requests, whatever the pane answers in each of them, the
manual range, the range of the series, the range shown and the origin of a drag are valid, and a
zoom of what a gesture starts from never meets ends out of order. -/
theorem ranges_stay_valid (rules : GestureRules Float) (requests : List Request) :
    let s := requests.foldl serve { rules }
    (∀ r ∈ s.manual, r.Valid) ∧ (∀ r ∈ s.auto, r.Valid) ∧ (∀ r ∈ s.effective, r.Valid) ∧
      (∀ startY origin, s.drag = .engaged startY origin → origin.Valid) ∧
      ∀ seed, s.seed = .ok seed → ∀ anchor factor,
        seed.checkedZoom? anchor factor = some (seed.zoomAbout? anchor factor) := by
  intro s
  have h : Sound s := sound_run rules requests
  refine ⟨h.manual, h.auto, h.effective, h.origin, ?_⟩
  intro seed hseed
  refine checkedZoom?_of_valid (h.effective seed ?_)
  unfold PriceScale.seed at hseed
  split at hseed
  · rename_i heq
    cases hseed
    exact heq
  · cases hseed

end PriceScale

end ChartLayer
