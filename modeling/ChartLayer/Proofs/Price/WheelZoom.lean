import ChartLayer.Price.Scale
import ChartLayer.Proofs.Outcome

/-!
# What a wheel on the axis zooms to

A wheel on the price axis either zooms, and then says so at once, or leaves the range as it was.
Here is what it takes to zoom, over any type of quantity.

* `zoomed_eq_some_iff`: when a wheel zooms, and to which range.
* `manual_handle_wheel`, `manual_of_turned`: the range that it leaves behind.
-/

namespace ChartLayer.PriceScale

variable {α : Type} [Quantity α] {s : PriceScale α} {y delta : α} {map : PriceMap α}
  {next : PriceRange α}

omit [Quantity α] in
theorem need_ok {β : Type} {what : MissingGeometry} {o : Option β} {b : β}
    (h : need what o = .ok b) : o = some b := by
  cases o with
  | none => cases h
  | some a => cases h; rfl

omit [Quantity α] in
theorem seed_eq_ok_iff {r : PriceRange α} : s.seed = .ok r ↔ s.effective = some r := by
  unfold seed
  cases s.effective with
  | none => constructor <;> rintro ⟨⟩
  | some shown =>
    constructor <;> rintro ⟨⟩ <;> rfl

/-- A wheel that zooms, from the range that is shown, about the price at the pointer. -/
theorem zoomed_eq_some_iff : s.zoomed y delta map = .ok (some next) ↔
    0.0 < zoomExponent s.rules delta ∧ ∃ seed price, s.effective = some seed ∧
      map.priceAt y = some price ∧
      seed.zoomAbout? price (zoomFactor delta (zoomExponent s.rules delta)) = some next := by
  unfold zoomed
  dsimp only
  constructor
  · intro h
    split at h
    · cases h
    · rename_i hturned
      obtain ⟨seed, hshown, h⟩ := exists_of_bind_ok h
      obtain ⟨price, hprice, h⟩ := exists_of_bind_ok h
      obtain ⟨reached, hreached, h⟩ := exists_of_bind_ok h
      cases h
      exact ⟨by simpa using hturned, seed, price, seed_eq_ok_iff.mp hshown, need_ok hprice,
        need_ok hreached⟩
  · rintro ⟨hturned, seed, price, hshown, hprice, hreached⟩
    rw [if_neg (by simpa using hturned), seed_eq_ok_iff.mpr hshown, hprice]
    change (need .zoomFactor (seed.zoomAbout? price _) >>= _) = _
    rw [hreached]
    rfl

/-- What a wheel on the axis leaves behind: the range that it zooms to, or the one before. -/
theorem manual_handle_wheel (s : PriceScale α) (y delta : α) (modifier : Bool) (map : PriceMap α) :
    (s.handle (.wheel y delta modifier .priceAxis) map).2.manual =
      match s.zoomed y delta map with
      | .ok (some next) => some next
      | _ => s.manual := by
  have happly : s.apply (.wheel y delta modifier .priceAxis) map =
      s.applyWheel (s.zoomed y delta map) := rfl
  unfold handle
  rw [happly]
  cases s.zoomed y delta map with
  | error what => rfl
  | ok zoomed => cases zoomed <;> rfl

/-- A wheel that turns, over a pane that knows the price at the pointer. -/
theorem manual_of_turned (hturned : 0.0 < zoomExponent s.rules delta) {seed : PriceRange α}
    {price : α} (hshown : s.effective = some seed) (hprice : map.priceAt y = some price)
    (modifier : Bool) :
    (s.handle (.wheel y delta modifier .priceAxis) map).2.manual =
      (seed.zoomAbout? price (zoomFactor delta (zoomExponent s.rules delta))).or s.manual := by
  have hiff (next : PriceRange α) : s.zoomed y delta map = .ok (some next) ↔
      seed.zoomAbout? price (zoomFactor delta (zoomExponent s.rules delta)) = some next := by
    rw [zoomed_eq_some_iff, hshown, hprice]
    refine ⟨?_, fun h => ⟨hturned, seed, price, rfl, rfl, h⟩⟩
    rintro ⟨-, _, _, ⟨⟩, ⟨⟩, h⟩
    exact h
  rw [manual_handle_wheel]
  cases hzoom : seed.zoomAbout? price (zoomFactor delta (zoomExponent s.rules delta)) with
  | some next => rw [(hiff next).mpr hzoom, Option.some_or]
  | none =>
    rw [Option.none_or]
    split
    · rename_i next hnext
      rw [(hiff next).mp hnext] at hzoom
      cases hzoom
    · rfl

end ChartLayer.PriceScale
