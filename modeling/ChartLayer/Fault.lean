import ChartLayer.Issue

/-!
# Why an operation fails

`Fault` holds the cause, `Fault.message` the sentence for a reader. Only missing geometry is worth
another try: the surface may know its size one frame later.
-/

namespace ChartLayer

/-- A piece of geometry that was asked for and not there. -/
inductive MissingGeometry where
  | paneHeight
  | labelPixel
  | seedRange
  | pointerPrice
  | zoomFactor
  | emptyPane
  | panOffset
  | dragOffset
  deriving DecidableEq, Repr

def MissingGeometry.name : MissingGeometry → String
  | paneHeight => "pane height"
  | labelPixel => "price to pixel"
  | seedRange => "no price range to seed the gesture"
  | pointerPrice => "pixel_to_price"
  | zoomFactor => "zoom factor"
  | emptyPane => "pane height is zero"
  | panOffset => "pan offset"
  | dragOffset => "drag offset"

/-- What is wrong with the value of a setting. -/
inductive SettingFault where
  | notRatio (got : Float)
  | negative (got : Float)
  | notPositive (got : Float)
  | zero
  | badFloat
  | badInteger (fault : IntegerFault)
  | badBool
  | unknownLimit (got : String)
  | unknownTimeframe (got : String)
  deriving DecidableEq, Repr

def SettingFault.message : SettingFault → String
  | notRatio x => "must be in (0, 1], got " ++ Notation.plain.write x
  | negative x => "must be finite and >= 0, got " ++ Notation.plain.write x
  | notPositive x => "must be finite and > 0, got " ++ Notation.plain.write x
  | zero => "must be at least 1"
  | badFloat => "invalid float literal"
  | badInteger fault => fault.message
  | badBool => "provided string was not `true` or `false`"
  | unknownLimit s => "unknown zone limit mode: " ++ s
  | unknownTimeframe s => "Unknown timeframe: " ++ s

/-- Why an operation fails.
mirrors `OverlayError` -/
inductive Fault where
  | geometryUnavailable (what : MissingGeometry)
  | invalidSetting (key : String) (fault : SettingFault)
  | malformed (issue : Issue)
  | unknownTimeframe (text : String)
  | disposed
  deriving DecidableEq, Repr

namespace Fault

def message : Fault → String
  | geometryUnavailable what => "Geometry unavailable: " ++ what.name
  | invalidSetting key fault => "Invalid configuration for " ++ key ++ ": " ++ fault.message
  | malformed issue => "Malformed payload (" ++ issue.kind.name ++ "): " ++ issue.detail
  | unknownTimeframe text => "Unknown timeframe: " ++ text
  | disposed => "Engine already disposed"

/-- Whether the same call may succeed one frame later.
mirrors `OverlayError::is_retryable` -/
def isTransient : Fault → Bool
  | geometryUnavailable _ => true
  | _ => false

end Fault

end ChartLayer
