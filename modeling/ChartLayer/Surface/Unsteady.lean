import ChartLayer.Surface.Memory

/-!
# A surface with a will of its own

`UnsteadySurface` is a surface in memory that refuses to create some drawings, can lose others, and
may scroll: when `scroll` is set, every change of its content moves the visible time by that much.
-/

namespace ChartLayer

/-- A surface in memory, the identities that it refuses, and how far it scrolls by itself. -/
structure UnsteadySurface where
  inner : MemorySurface
  refused : List String := []
  scroll : Option Time := none
  deriving DecidableEq, Repr

namespace UnsteadySurface

/-- Moves the visible time, if there is one and the surface scrolls. -/
def drift (s : UnsteadySurface) : UnsteadySurface :=
  match s.scroll, s.inner.timeSpan with
  | some by_, some span =>
    { s with inner := { s.inner with timeSpan := some ⟨span.start + by_, span.stop + by_⟩ } }
  | _, _ => s

/-- Changes what lies inside. -/
def update (f : MemorySurface → MemorySurface) (s : UnsteadySurface) : UnsteadySurface :=
  { s with inner := f s.inner }

/-- From now on these identities are refused. -/
def refuse (identities : List String) (s : UnsteadySurface) : UnsteadySurface :=
  { s with refused := identities }

/-- Loses a drawing without a word. -/
def lose (handle : Handle) (s : UnsteadySurface) : UnsteadySurface :=
  s.update (·.erase handle)

instance : Surface UnsteadySurface where
  priceMap s := s.inner.priceMap
  askFrame := update .askFrame
  visibleTimes s := s.inner.timeSpan
  showTimes span := update (Surface.showTimes span)
  fitTimes := update .fitTimes
  syncTimeAxis := update Surface.syncTimeAxis
  enablePan enabled := update (Surface.enablePan enabled)
  invalidatePrices := update Surface.invalidatePrices
  showBars bars s := (s.update (Surface.showBars bars)).drift
  showBar bar s := (s.update (.showBar bar)).drift
  setBadge price := update (Surface.setBadge price)
  draw key drawing s :=
    if s.refused.contains key.identity then (none, s)
    else
      let (handle, inner) := s.inner.draw key drawing
      (handle, { s with inner }.drift)
  redraw handle drawing s :=
    let (found, inner) := s.inner.redraw handle drawing
    (found, { s with inner }.drift)
  erase handle s := (s.update (.erase handle)).drift
  showLabels layout := update (.showLabels layout)
  containerSize s := s.inner.container
  applySize width height := update (Surface.applySize width height)

end UnsteadySurface

end ChartLayer
