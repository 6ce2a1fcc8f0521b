import ChartLayer.Settings.Basic

/-!
# Settings from the environment

Each setting has a variable of its own. A variable that is missing or blank leaves the usual value;
one that does not read is a fault, and so is a value out of bounds.
-/

namespace ChartLayer.Settings

/-- The variables that are set. -/
abbrev Environment := String → Option String

/-- The variables that are looked at. -/
def variableNames : List String :=
  ["OVERLAY_WHEEL_DELTA_CAP", "OVERLAY_ZOOM_INTENSITY", "OVERLAY_PAN_FACTOR",
   "OVERLAY_DRAG_ACTIVATION_PX", "OVERLAY_CLUSTER_OVERLAP_RATIO", "OVERLAY_CLUSTER_GAP_RATIO",
   "OVERLAY_CONTAINMENT_TOLERANCE_RATIO", "OVERLAY_ATR_PERIOD", "OVERLAY_MICRO_WINDOW_ATR_MULT",
   "OVERLAY_MICRO_WINDOW_MIN_RATIO", "OVERLAY_ZONE_LIMIT_MODE", "OVERLAY_ANON_KEY_PRECISION",
   "OVERLAY_LABEL_MIN_GAP_PX", "OVERLAY_LABEL_MARGIN_PX", "OVERLAY_VIEW_TIMEFRAME",
   "OVERLAY_DIAGNOSTIC_INTERVAL_SECS", "OVERLAY_DEBUG"]

/-- The value of a variable, if it is there and not blank. -/
def setting? (env : Environment) (key : String) : Option String :=
  (env key).filter fun raw => !allBlank raw

/-- Reads one variable.
mirrors `env_parse` -/
def fromVariable {α : Type} (env : Environment) (key : String)
    (parse : String → Except SettingFault α) (usual : α) : Except Fault α :=
  match setting? env key with
  | none => .ok usual
  | some raw => (parse (trimmed raw)).mapError (Fault.invalidSetting key)

def parseFloat (s : String) : Except SettingFault Float :=
  match readFloat? s with
  | some x => .ok x
  | none => .error .badFloat

def parseNat (s : String) : Except SettingFault Nat := (readNat64 s).mapError .badInteger

def parseBool (s : String) : Except SettingFault Bool :=
  if s = "true" then .ok true else if s = "false" then .ok false else .error .badBool

def parseLimit (s : String) : Except SettingFault LimitMode :=
  (LimitMode.parse s).mapError .unknownLimit

/-- The view is read as it stands, blanks included. -/
def viewFrom (env : Environment) (usual : Option Timeframe) : Except Fault (Option Timeframe) :=
  let key := "OVERLAY_VIEW_TIMEFRAME"
  match setting? env key with
  | none => .ok usual
  | some raw =>
    match Timeframe.parse? raw with
    | some tf => .ok (some tf)
    | none => .error (.invalidSetting key (.unknownTimeframe raw))

/-- All settings, checked.
mirrors `EngineConfig::from_env` -/
def fromEnvironment (env : Environment) : Except Fault Settings := do
  let d : Settings := {}
  let float := fun key usual => fromVariable env key parseFloat usual
  let nat := fun key usual => fromVariable env key parseNat usual
  let gestures : GestureRules Float := {
    wheelCap := ← float "OVERLAY_WHEEL_DELTA_CAP" d.gestures.wheelCap
    zoomIntensity := ← float "OVERLAY_ZOOM_INTENSITY" d.gestures.zoomIntensity
    panFactor := ← float "OVERLAY_PAN_FACTOR" d.gestures.panFactor
    dragActivation := ← float "OVERLAY_DRAG_ACTIVATION_PX" d.gestures.dragActivation }
  let zones : ZoneRules := {
    overlapRatio := ← float "OVERLAY_CLUSTER_OVERLAP_RATIO" d.zones.overlapRatio
    gapRatio := ← float "OVERLAY_CLUSTER_GAP_RATIO" d.zones.gapRatio
    toleranceRatio := ← float "OVERLAY_CONTAINMENT_TOLERANCE_RATIO" d.zones.toleranceRatio
    atrPeriod := ← nat "OVERLAY_ATR_PERIOD" d.zones.atrPeriod
    windowMultiple := ← float "OVERLAY_MICRO_WINDOW_ATR_MULT" d.zones.windowMultiple
    windowLeastRatio := ← float "OVERLAY_MICRO_WINDOW_MIN_RATIO" d.zones.windowLeastRatio
    limit := ← fromVariable env "OVERLAY_ZONE_LIMIT_MODE" parseLimit d.zones.limit
    keyPrecision := ← nat "OVERLAY_ANON_KEY_PRECISION" d.zones.keyPrecision }
  let labels : LabelRules Float := {
    minGap := ← float "OVERLAY_LABEL_MIN_GAP_PX" d.labels.minGap
    margin := ← float "OVERLAY_LABEL_MARGIN_PX" d.labels.margin }
  let view ← viewFrom env d.view
  let reportInterval ← nat "OVERLAY_DIAGNOSTIC_INTERVAL_SECS" d.reportInterval
  let debug ← fromVariable env "OVERLAY_DEBUG" parseBool d.debug
  let settings : Settings := { gestures, zones, labels, view, reportInterval, debug }
  settings.validate
  return settings

end ChartLayer.Settings
