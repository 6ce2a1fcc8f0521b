import ChartLayer.Json.Reader
import ChartLayer.Layer.Offscreen
import ChartLayer.Settings.Environment
import ChartLayer.Snapshot.Basic
import ChartLayer.Snapshot.Options
import ChartLayer.Snapshot.Report

/-!
# Replaying a snapshot

A snapshot is shown on a layer without a screen, the way a host would show it, and what the layer
then draws is reported.
-/

namespace ChartLayer

/-- Why a snapshot cannot be replayed. -/
inductive ReplayFault where
  | fault (f : Fault)
  | unknownLimit (text : String)
  | badDocument
  deriving DecidableEq, Repr

namespace ReplayFault

def message : ReplayFault → String
  | fault f => f.message
  | unknownLimit text => "unknown zone limit mode: " ++ text
  | badDocument => "the snapshot is not a JSON document"

end ReplayFault

namespace ReplayOptions

/-- The settings of a replay: those of the environment, and what the options change. -/
def settings (env : Settings.Environment) (o : ReplayOptions) : Except ReplayFault Settings := do
  let base ← (Settings.fromEnvironment env).mapError .fault
  let view ←
    match o.viewTimeframe with
    | none => pure base.view
    | some raw =>
      match Timeframe.parse? raw with
      | some tf => pure (some tf)
      | none => throw (.fault (.unknownTimeframe raw))
  let limit ←
    match o.zoneLimit with
    | none => pure base.zones.limit
    | some raw => (LimitMode.parse raw).mapError .unknownLimit
  return { base with view, debug := base.debug || o.debug, zones := { base.zones with limit } }

end ReplayOptions

namespace Snapshot

/-- The most frames that a replay runs. -/
def mostFrames : Nat := 8

/-- What a host does to show the deliveries that follow the bars. -/
def commands (view : Option Timeframe) (tickSize : Float) (s : Snapshot)
    (lastClose : Option Float) : List Command :=
  [.setZones s.zones.items, .setPools s.pools.items, .setLevels s.levels.items view tickSize,
   .setSessions s.sessions.items]
    ++ (lastClose.map .priceTick).toList ++ [.viewportChanged]

/-- Shows a snapshot on a layer. -/
def showOn (view : Option Timeframe) (tickSize : Float) (s : Snapshot)
    (l : Layer MemorySurface) : Layer MemorySurface :=
  let l := l.run [.report s.issues, .setBars s.bars.items]
  let (_, l) := l.askForRange
  let lastClose := l.bars.bars.getLast?.map (·.closePrice)
  ((l.run (s.commands view tickSize lastClose)).runFrames mostFrames).2

end Snapshot

/-- Replays the snapshot in a text. -/
def replay (env : Settings.Environment) (o : ReplayOptions) (text : String) :
    Except ReplayFault Report := do
  let settings ← o.settings env
  let doc ←
    match Json.parse? text with
    | some doc => pure doc
    | none => throw .badDocument
  let snapshot := Snapshot.ofJson settings.zones.keyPrecision doc
  let layer ← (Layer.create? (MemorySurface.ofSize o.width o.height) settings).mapError .fault
  return .ofLayer snapshot.issues.length (snapshot.showOn settings.view o.tickSize layer)

end ChartLayer
