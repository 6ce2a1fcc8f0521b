import ChartLayer.Layer.Command
import ChartLayer.Surface.Memory

/-!
# A layer without a screen

What a host with a screen does of itself: letting the series ask for their range, and running the
frames that the layer asks for.
-/

namespace ChartLayer.Layer

/-- Lets the series ask for their range, which then is the range shown.
mirrors `run_autoscale` -/
def askForRange (l : Layer MemorySurface) :
    Option (PriceRange Float) × Layer MemorySurface :=
  match l.perform (.autoscale l.surface.contentRange?) with
  | (.range range, l) => (range, l.onSurface (MemorySurface.setPriceRange range))
  | (_, l) => (none, l)

/-- Runs frames as long as the layer asks for them, at most `most`, and counts them.
mirrors `pump_frames` -/
def runFrames (most : Nat) (l : Layer MemorySurface) : Nat × Layer MemorySurface :=
  match most with
  | 0 => (0, l)
  | most + 1 =>
    match l.surface.takeFrame with
    | (false, _) => (0, l)
    | (true, surface) =>
      let (frames, l) := runFrames most ({ l with surface }.step .frame)
      (frames + 1, l)

end ChartLayer.Layer
