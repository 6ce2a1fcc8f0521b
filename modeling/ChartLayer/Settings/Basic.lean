import ChartLayer.Fault
import ChartLayer.Label
import ChartLayer.Price.Scale
import ChartLayer.Zone.Selection

/-!
# Settings

The numbers that tune the layer. `Settings.validate` names the first one that is out of bounds, in a
fixed order of the settings.
-/

namespace ChartLayer

/-- All settings, with their usual values.
mirrors `EngineConfig` -/
structure Settings where
  gestures : GestureRules Float :=
    { wheelCap := 120.0, zoomIntensity := 0.002, panFactor := 1.0, dragActivation := 4.0 }
  zones : ZoneRules := {}
  labels : LabelRules Float := { minGap := 16.0, margin := 8.0 }
  /-- The view; without one the spacing of the bars is it. -/
  view : Option Timeframe := none
  /-- Seconds between two reports of one kind of issue. -/
  reportInterval : Nat := 5
  debug : Bool := false
  deriving DecidableEq, Repr

namespace Settings

/-- A ratio is above zero and at most one. -/
def checkRatio (key : String) (x : Float) : Except Fault Unit :=
  if 0.0 < x ∧ x ≤ 1.0 then .ok () else .error (.invalidSetting key (.notRatio x))

/-- Finite and not below zero. -/
def checkNonNegative (key : String) (x : Float) : Except Fault Unit :=
  if !x.isFinite || decide (x < 0.0) then .error (.invalidSetting key (.negative x)) else .ok ()

/-- Finite and above zero. -/
def checkPositive (key : String) (x : Float) : Except Fault Unit :=
  if !x.isFinite || decide (x ≤ 0.0) then .error (.invalidSetting key (.notPositive x)) else .ok ()

/-- The first setting that is out of bounds.
mirrors `EngineConfig::validate` -/
def validate (s : Settings) : Except Fault Unit := do
  checkRatio "cluster_overlap_ratio" s.zones.overlapRatio
  checkNonNegative "cluster_gap_ratio" s.zones.gapRatio
  checkNonNegative "containment_tolerance_ratio" s.zones.toleranceRatio
  checkNonNegative "micro_window_atr_mult" s.zones.windowMultiple
  checkNonNegative "micro_window_min_ratio" s.zones.windowLeastRatio
  checkNonNegative "label_margin_px" s.labels.margin
  checkPositive "wheel_delta_cap" s.gestures.wheelCap
  checkPositive "zoom_intensity" s.gestures.zoomIntensity
  checkPositive "pan_factor" s.gestures.panFactor
  checkPositive "label_min_gap_px" s.labels.minGap
  checkNonNegative "drag_activation_px" s.gestures.dragActivation
  if s.zones.atrPeriod = 0 then .error (.invalidSetting "atr_period" .zero) else .ok ()

end Settings

end ChartLayer
