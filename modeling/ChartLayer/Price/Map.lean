import ChartLayer.Price.Range

/-!
# Between prices and pixels

What a pane answers about its geometry. Each answer may be missing, because a pane has no size until
it is laid out. Pixels count downwards from the top.
-/

namespace ChartLayer

/-- The answers of a pane.
mirrors `PriceMapper` -/
structure PriceMap (α : Type) where
  paneHeight : Option α
  pixelOf : α → Option α
  priceAt : α → Option α

namespace PriceMap

variable {α : Type} [Quantity α]

/-- A pane of some height that shows a range linearly. A height that is not positive counts as
unmeasured, and without a range there is no pixel for a price.
mirrors `HeadlessSurface::price_to_pixel` and `HeadlessSurface::pixel_to_price` -/
def linear (height : Option α) (range : Option (PriceRange α)) : PriceMap α :=
  let height := height.filter fun h => 0.0 < h
  { paneHeight := height
    pixelOf price := do
      let h ← height
      let r ← range
      return (r.max - price) / r.span * h
    priceAt y := do
      let h ← height
      let r ← range
      return r.max - y / h * r.span }

end PriceMap

end ChartLayer
