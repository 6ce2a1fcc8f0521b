import ChartLayer.Layer.Content
import ChartLayer.Layer.Frame

/-!
# Commands

All that a host may ask of a layer, as data. A layer that has been disposed refuses every command
that would change it, except that issues are still counted; its frames do nothing, and a series that
asks for its range is told its own.

* `Layer.perform`: one command and its reply.
* `Layer.run`: several commands, one after the other.
-/

namespace ChartLayer

/-- What a host may ask of a layer. -/
inductive Command where
  | setBars (bars : List Bar)
  | updateBar (bar : Bar)
  | previewBar (bar : Bar)
  | clearPreview
  | priceTick (price : Float)
  | setZones (zones : List Zone)
  | mergeZone (zone : Zone)
  | setPools (pools : List Pool)
  | setLevels (levels : List Level) (timeframe : Option Timeframe) (tickSize : Float)
  | setSessions (sessions : List Session)
  | setView (view : Option Timeframe)
  | setLimit (limit : LimitMode)
  | gesture (g : Gesture Float)
  | viewportChanged
  | resize
  | resetView
  | autoscale (base : Option (PriceRange Float))
  | report (issues : List Issue)
  | frame
  | dispose
  deriving DecidableEq, Repr

/-- What a layer answers. -/
inductive Reply where
  | done
  | resized (measured : Bool)
  | range (r : Option (PriceRange Float))
  | refused (fault : Fault)
  deriving DecidableEq, Repr

namespace Layer

variable {σ : Type} [Surface σ]

/-- One command on a layer that has not been disposed. -/
def performLive (command : Command) (l : Layer σ) : Reply × Layer σ :=
  match command with
  | .setBars bars => (.done, l.setBars bars)
  | .updateBar bar => (.done, l.updateBar bar)
  | .previewBar bar => (.done, l.previewBar bar)
  | .clearPreview => (.done, l.clearPreview)
  | .priceTick price => (.done, l.priceTick price)
  | .setZones zones => (.done, l.setZones zones)
  | .mergeZone zone => (.done, l.mergeZone zone)
  | .setPools pools => (.done, l.setPools pools)
  | .setLevels levels timeframe tickSize => (.done, l.setLevels levels timeframe tickSize)
  | .setSessions sessions => (.done, l.setSessions sessions)
  | .setView view => (.done, l.setView view)
  | .setLimit limit => (.done, l.setLimit limit)
  | .gesture g => (.done, l.gesture g)
  | .viewportChanged => (.done, l.scheduleLabels)
  | .resize =>
    let (measured, l) := l.resize
    (.resized measured, l)
  | .resetView => (.done, l.resetView)
  | .autoscale base =>
    let (range, l) := l.autoscale base
    (.range range, l)
  | .report issues => (.done, l.report issues)
  | .frame => (.done, l.frame)
  | .dispose => (.done, l.dispose)

/-- One command on a layer that has been disposed. -/
def performDisposed (command : Command) (l : Layer σ) : Reply × Layer σ :=
  match command with
  | .autoscale base => (.range base, l)
  | .report issues => (.done, l.report issues)
  | .frame | .dispose => (.done, l)
  | _ => (.refused .disposed, l)

/-- One command and its reply. -/
def perform (command : Command) (l : Layer σ) : Reply × Layer σ :=
  if l.disposed then l.performDisposed command else l.performLive command

/-- One command. -/
def step (l : Layer σ) (command : Command) : Layer σ := (l.perform command).2

/-- Commands one after the other. -/
def run (commands : List Command) (l : Layer σ) : Layer σ := commands.foldl step l

end Layer

end ChartLayer
