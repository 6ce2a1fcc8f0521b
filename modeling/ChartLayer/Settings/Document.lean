import ChartLayer.Record.Read
import ChartLayer.Record.Write
import ChartLayer.Settings.Basic

/-!
# Settings as a document

A record with one field for each setting. When it is read, a field that is missing or null leaves
the usual value.
-/

namespace ChartLayer.Settings

def toJson (s : Settings) : Json :=
  .record
    [("wheel_delta_cap", .float s.gestures.wheelCap),
     ("zoom_intensity", .float s.gestures.zoomIntensity),
     ("pan_factor", .float s.gestures.panFactor),
     ("drag_activation_px", .float s.gestures.dragActivation),
     ("cluster_overlap_ratio", .float s.zones.overlapRatio),
     ("cluster_gap_ratio", .float s.zones.gapRatio),
     ("containment_tolerance_ratio", .float s.zones.toleranceRatio),
     ("atr_period", .nat s.zones.atrPeriod),
     ("micro_window_atr_mult", .float s.zones.windowMultiple),
     ("micro_window_min_ratio", .float s.zones.windowLeastRatio),
     ("zone_limit_mode", s.zones.limit.toJson),
     ("anonymous_key_precision", .nat s.zones.keyPrecision),
     ("min_gap_px", .float s.labels.minGap), ("margin_px", .float s.labels.margin),
     ("view_timeframe", .option Timeframe.toJson s.view),
     ("diagnostic_interval_secs", .nat s.reportInterval), ("debug", .bool s.debug)]

/-- A field of a record, or the usual value. -/
def fieldOr {α : Type} (doc : Json) (name : String) (read : Json → Option α) (usual : α) :
    Option α :=
  match doc.get? name with
  | none | some .null => some usual
  | some v => read v

/-- A count. -/
def count? : Json → Option Nat
  | .number (.whole n) => if 0 ≤ n then some n.toNat else none
  | _ => none

/-- The settings in a document; what it does not say is as in `d`. -/
def ofJson? (float : Json → Option Float) (d : Settings) (doc : Json) : Option Settings := do
  let field {α : Type} (name : String) (read : Json → Option α) (usual : α) : Option α :=
    fieldOr doc name read usual
  let gestures : GestureRules Float := {
    wheelCap := ← field "wheel_delta_cap" float d.gestures.wheelCap
    zoomIntensity := ← field "zoom_intensity" float d.gestures.zoomIntensity
    panFactor := ← field "pan_factor" float d.gestures.panFactor
    dragActivation := ← field "drag_activation_px" float d.gestures.dragActivation }
  let zones : ZoneRules := {
    overlapRatio := ← field "cluster_overlap_ratio" float d.zones.overlapRatio
    gapRatio := ← field "cluster_gap_ratio" float d.zones.gapRatio
    toleranceRatio := ← field "containment_tolerance_ratio" float d.zones.toleranceRatio
    atrPeriod := ← field "atr_period" count? d.zones.atrPeriod
    windowMultiple := ← field "micro_window_atr_mult" float d.zones.windowMultiple
    windowLeastRatio := ← field "micro_window_min_ratio" float d.zones.windowLeastRatio
    limit := ← field "zone_limit_mode" LimitMode.ofJson? d.zones.limit
    keyPrecision := ← field "anonymous_key_precision" count? d.zones.keyPrecision }
  let labels : LabelRules Float := {
    minGap := ← field "min_gap_px" float d.labels.minGap
    margin := ← field "margin_px" float d.labels.margin }
  let view ← field "view_timeframe" (fun v => (Timeframe.ofJson? v).map some) d.view
  let reportInterval ← field "diagnostic_interval_secs" count? d.reportInterval
  let debug ← field "debug" Json.asBool? d.debug
  return { gestures, zones, labels, view, reportInterval, debug }

end ChartLayer.Settings
