import ChartLayer.Number.Quantity

/-!
# Price ranges

The part of the price axis that a pane shows. A range is made by `PriceRange.of?`, which puts two
prices in order and spreads prices that lie too close to at least `PriceRange.leastSpan`, so the
zoom and pan factors never meet a span of zero.

* `PriceRange.zoomAbout?`: zoom, holding one price in place.
* `PriceRange.movedBy?`: pan.
* `panDistance?`: how far a movement of pixels pans.
-/

namespace ChartLayer

/-- The lowest and the highest price shown.
mirrors `PriceRange` -/
structure PriceRange (α : Type) where
  min : α
  max : α
  deriving DecidableEq, Repr

namespace PriceRange

variable {α : Type} [Quantity α]

/-- No range is narrower.
mirrors `MIN_PRICE_SPAN` -/
def leastSpan : α := 1e-8

/-- mirrors `PriceRange::span` -/
def span (r : PriceRange α) : α := r.max - r.min

/-- mirrors `PriceRange::mid` -/
def mid (r : PriceRange α) : α := (r.min + r.max) / 2.0

/-- mirrors `PriceRange::contains` -/
def contains (r : PriceRange α) (price : α) : Bool := r.min ≤ price && price ≤ r.max

/-- Equal bounds, where the two zeros are equal. -/
def sameAs (r s : PriceRange α) : Bool := r.min == s.min && r.max == s.max

/-- How often `widen?` doubles at most. Doubling the least span more often than this passes the
largest double. -/
def widenSteps : Nat := 1100

/-- The range from `mid - half` to `mid + half`, with `half` doubled until rounding leaves the least
span. -/
def widen? (mid : α) : Nat → α → Option (PriceRange α)
  | 0, _ => none
  | steps + 1, half =>
    let low := mid - half
    let high := mid + half
    if !Quantity.isFinite low || !Quantity.isFinite high then none
    else if high - low < leastSpan ∨ high ≤ low then widen? mid steps (half * 2.0)
    else some ⟨low, high⟩

/-- The range between two finite prices in either order, spread around its middle if it is narrower
than the least span.
mirrors `normalize_range` -/
def of? (a b : α) : Option (PriceRange α) :=
  if !Quantity.isFinite a || !Quantity.isFinite b then none
  else
    let low := if a ≤ b then a else b
    let high := if a ≤ b then b else a
    if leastSpan ≤ high - low then some ⟨low, high⟩
    else
      let mid := low + (high - low) / 2.0
      let half := leastSpan / 2.0
      let near := mid - half
      let far := mid + half
      if far - near < leastSpan ∨ far ≤ near then widen? mid widenSteps leastSpan
      else some ⟨near, far⟩

/-- The range with its distances from `anchor` multiplied by `factor`; less than one zooms in. An
anchor outside the range is moved to its nearer end.
mirrors `scale_about` -/
def zoomAbout? (r : PriceRange α) (anchor factor : α) : Option (PriceRange α) :=
  if !Quantity.isFinite factor || factor ≤ 0.0 then none
  else
    let anchor := Quantity.clamp anchor r.min r.max
    of? (anchor - (anchor - r.min) * factor) (anchor + (r.max - anchor) * factor)

/-- The range moved by `offset`.
mirrors `shift` -/
def movedBy? (r : PriceRange α) (offset : α) : Option (PriceRange α) :=
  of? (r.min + offset) (r.max + offset)

end PriceRange

/-- How far a movement of `delta` pixels pans a pane that shows `span` over `height` pixels. Moving
down lowers the prices shown.
mirrors `pan_offset` -/
def panDistance? {α : Type} [Quantity α] (delta height span factor : α) : Option α :=
  if !decide (0.0 < height) || !Quantity.isFinite delta then none
  else some (-delta / height * span * factor)

end ChartLayer
