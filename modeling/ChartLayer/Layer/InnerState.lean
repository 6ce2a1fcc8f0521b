import ChartLayer.Layer.Basic
import ChartLayer.Record.Write

/-!
# A look inside

The state of a layer that does not show on its surface, for those who look for a mistake.
-/

namespace ChartLayer

/-- The inner state of a layer.
mirrors `EngineDiagnostics` -/
structure InnerState where
  manual : Option (PriceRange Float)
  auto : Option (PriceRange Float)
  dragPhase : DragPhase
  dragEngaged : Bool
  deferredGesture : Bool
  frozenZones : Nat
  frozenClusters : Nat
  drawings : Nat
  generation : Nat
  staleRelayouts : Nat
  deriving DecidableEq, Repr

def InnerState.toJson (d : InnerState) : Json :=
  .record
    [("manual_range", .option PriceRange.toJson d.manual),
     ("auto_range", .option PriceRange.toJson d.auto), ("drag_phase", .text d.dragPhase.name),
     ("drag_engaged", .bool d.dragEngaged), ("deferred_gesture", .bool d.deferredGesture),
     ("frozen_zones", .nat d.frozenZones), ("frozen_clusters", .nat d.frozenClusters),
     ("primitives", .nat d.drawings), ("generation", .nat d.generation),
     ("stale_relayouts", .nat d.staleRelayouts)]

/-- The inner state, if the settings ask for it.
mirrors `OverlayEngine::diagnostics` -/
def Layer.innerState? {σ : Type} (l : Layer σ) : Option InnerState :=
  if l.settings.debug then
    some
      { manual := l.scale.manual
        auto := l.scale.auto
        dragPhase := l.scale.drag.phase
        dragEngaged := l.scale.drag.isEngaged
        deferredGesture := l.scale.deferred.isSome
        frozenZones := l.selector.frozen.zones.size
        frozenClusters := l.selector.frozen.clusters.size
        drawings := l.registry.size
        generation := l.generation
        staleRelayouts := l.staleRelayouts }
  else none

end ChartLayer
