import ChartLayer.Bar.Basic
import ChartLayer.Drawing.Basic
import ChartLayer.Label

/-!
# The charting surface

Everything that the layer needs from the chart that it draws on. A surface is a value that its
operations turn into the next one. It may refuse to create a drawing, and it may lose one.
-/

namespace ChartLayer

/-- The name that a surface gives to a drawing it has drawn.
mirrors `PrimitiveHandle` -/
structure Handle where
  number : Nat
  deriving DecidableEq, Repr

/-- The operations of a surface.
mirrors `ChartSurface` -/
class Surface (σ : Type) where
  priceMap : σ → PriceMap Float
  /-- Asks for one frame. -/
  askFrame : σ → σ
  visibleTimes : σ → Option TimeSpan
  showTimes : TimeSpan → σ → σ
  fitTimes : σ → σ
  /-- Aligns the time axis after the price axis was reset. -/
  syncTimeAxis : σ → σ
  /-- Pan is off while a vertical drag owns the pointer. -/
  enablePan : Bool → σ → σ
  /-- Lets every series ask for its range again. -/
  invalidatePrices : σ → σ
  showBars : List Bar → σ → σ
  showBar : Bar → σ → σ
  setBadge : Option Float → σ → σ
  /-- The handle of a new drawing; none if the surface refuses. -/
  draw : DrawingKey → Drawing → σ → Option Handle × σ
  /-- Changes a drawing in place; `false` if it is gone. -/
  redraw : Handle → Drawing → σ → Bool × σ
  erase : Handle → σ → σ
  showLabels : LabelLayout Float → σ → σ
  /-- Width and height of the host, once measured. -/
  containerSize : σ → Option (Float × Float)
  applySize : Float → Float → σ → σ

end ChartLayer
