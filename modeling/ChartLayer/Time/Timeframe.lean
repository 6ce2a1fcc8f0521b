import ChartLayer.Number.Reading
import ChartLayer.Text.Blank
import ChartLayer.Text.Lowercase

/-!
# Timeframes

A timeframe is the length in seconds of the buckets that bars are grouped into. Times are signed
64-bit seconds since 1970.

* `Timeframe.parse?` / `Timeframe.label`: the text form, such as `15m`, `h4` or plain seconds.
* `Timeframe.checked`: arithmetic on times, with `Overflow` where the result is no time.
* `Timeframe.bucketStart` / `Timeframe.isAligned`: the bucket a time falls into.
* `Timeframe.bit` / `rankOfMask`: sets of timeframes as bits, coarser ones higher.
-/

namespace ChartLayer

/-- Seconds since 1970, or a length in seconds. -/
abbrev Time := Int64

/-- The text of a time: decimal, with a minus in front of negative ones. -/
def timeText (t : Time) : String :=
  (if t < 0 then "-" else "") ++ Nat.repr t.toInt.natAbs

/-- A bucket length; always longer than nothing.
mirrors `Timeframe` -/
structure Timeframe where
  secs : Time
  positive : 0 < secs
  deriving DecidableEq, Repr

namespace Timeframe

/-- The timeframe of so many seconds.
mirrors `Timeframe::from_secs` -/
def ofSecs? (secs : Time) : Option Timeframe :=
  if h : 0 < secs then some ⟨secs, h⟩ else none

theorem ofSecs?_eq_some_iff {secs : Time} {tf : Timeframe} :
    ofSecs? secs = some tf ↔ secs = tf.secs := by
  rw [ofSecs?]
  constructor
  · intro h
    split at h
    · cases h
      rfl
    · cases h
  · rintro rfl
    exact dif_pos tf.positive

theorem toInt_secs_pos (tf : Timeframe) : 0 < tf.secs.toInt :=
  Int64.lt_iff_toInt_lt.mp tf.positive

/-- The listed timeframes, from fine to coarse. The place in this list is the bit in a mask.
mirrors `KNOWN` -/
def listed : List (String × Time) :=
  [("1s", 1), ("5s", 5), ("15s", 15), ("30s", 30), ("1m", 60), ("3m", 180), ("5m", 300),
   ("15m", 900), ("30m", 1800), ("1h", 3600), ("4h", 14400), ("1d", 86400), ("1w", 604800)]

/-! ## Views -/

/-- Views this coarse are refined by nesting.
mirrors `HIGH_TIMEFRAME_SECS` -/
def highSecs : Time := 3600

/-- Views this fine are refined by distance.
mirrors `MICRO_VIEW_MAX_SECS` -/
def microSecs : Time := 70

/-- mirrors `Timeframe::is_high_timeframe_view` -/
def isHigh (tf : Timeframe) : Bool := highSecs ≤ tf.secs

/-- mirrors `Timeframe::is_micro_view` -/
def isMicro (tf : Timeframe) : Bool := tf.secs ≤ microSecs

/-! ## Arithmetic -/

/-- A number of seconds that is no time. Arithmetic that comes to one ends there. -/
structure Overflow where
  secs : Int
  deriving DecidableEq, Repr

/-- Whether a number is one of sixty-four bits. -/
def Fits (n : Int) : Prop := Int64.minValue.toInt ≤ n ∧ n ≤ Int64.maxValue.toInt

instance decidableFits (n : Int) : Decidable (Fits n) := inferInstanceAs (Decidable (_ ∧ _))

theorem Fits.toInt_ofInt {n : Int} (h : Fits n) : (Int64.ofInt n).toInt = n := by
  have hmin : Int64.minValue.toInt = -2 ^ 63 := by decide
  have hlimit : Int64.maxValue.toInt = 2 ^ 63 - 1 := by decide
  obtain ⟨hlow, hhigh⟩ := h
  exact Int64.toInt_ofInt_of_le (by omega) (by omega)

theorem fits_toInt (t : Int64) : Fits t.toInt := ⟨t.minValue_le_toInt, t.toInt_le⟩

/-- The time of so many seconds, if there is one. -/
def checked (n : Int) : Except Overflow Time :=
  if Fits n then .ok (Int64.ofInt n) else .error ⟨n⟩

theorem checked_eq_ok_iff {n : Int} {t : Time} : checked n = .ok t ↔ t.toInt = n := by
  unfold checked
  split
  · rename_i hfits
    rw [Except.ok.injEq, ← Int64.toInt_inj, hfits.toInt_ofInt, eq_comm]
  · rename_i hfits
    refine iff_of_false (fun h => by cases h) ?_
    rintro rfl
    exact hfits (fits_toInt t)

theorem checked_eq_error_iff {n : Int} {overflow : Overflow} :
    checked n = .error overflow ↔ overflow.secs = n ∧ ¬Fits n := by
  obtain ⟨secs⟩ := overflow
  unfold checked
  split
  · rename_i hfits
    exact iff_of_false (fun h => by cases h) fun h => h.2 hfits
  · rename_i hfits
    rw [Except.error.injEq, Overflow.mk.injEq, eq_comm]
    exact (and_iff_left hfits).symm

/-! ## Buckets -/

/-- The start of the bucket that holds `t`, which overflows if that bucket begins before all times.
mirrors `Timeframe::bucket_start` -/
def bucketStart (tf : Timeframe) (t : Time) : Except Overflow Time :=
  checked (t.toInt.fdiv tf.secs.toInt * tf.secs.toInt)

/-- Whether a bucket starts at `t`.
mirrors `Timeframe::is_aligned` -/
def isAligned (tf : Timeframe) (t : Time) : Bool := t.toInt.fmod tf.secs.toInt == 0

/-! ## Masks -/

/-- The place of the coarsest listed timeframe that is not longer. -/
def bitIndex (tf : Timeframe) : Nat := listed.countP (fun entry => entry.2 ≤ tf.secs) - 1

/-- The bit of a timeframe in a mask.
mirrors `Timeframe::mask_bit` -/
def bit (tf : Timeframe) : Nat := 1 <<< tf.bitIndex

/-! ## Labels -/

/-- The units of a label, from long to short. -/
def labelUnits : List (Time × String) :=
  [(604800, "w"), (86400, "d"), (3600, "h"), (60, "m"), (1, "s")]

/-- The listed label, or a whole number of the longest unit that goes into it.
mirrors `Timeframe::fmt` -/
def label (tf : Timeframe) : String :=
  match listed.find? fun entry => entry.2 == tf.secs with
  | some entry => entry.1
  | none =>
    match labelUnits.find? fun entry => tf.secs % entry.1 == 0 with
    | some (length, name) => timeText (tf.secs / length) ++ name
    | none => timeText tf.secs ++ "s"

/-- The length of a unit by any of its names. -/
def unitSecs? (name : String) : Option Time :=
  if ["s", "sec", "secs"].contains name then some 1
  else if ["m", "min", "mins"].contains name then some 60
  else if ["h", "hr", "hour", "hours"].contains name then some 3600
  else if ["d", "day", "days"].contains name then some 86400
  else if ["w", "wk", "week", "weeks"].contains name then some 604800
  else none

/-- A lower case label as number and unit: one letter before digits, or digits before a word. -/
def splitLabel? (cs : List Char) : Option (List Char × List Char) :=
  let numberFirst :=
    let (ds, name) := cs.span Char.isDigit
    if name.isEmpty then none else some (ds, name)
  match cs with
  | c :: ds => if c.isAlpha && ds.all Char.isDigit then some (ds, [c]) else numberFirst
  | [] => numberFirst

/-- So many units; without a number, one. -/
def ofLabel? (cs : List Char) : Option Timeframe := do
  let (ds, name) ← splitLabel? cs
  let count ← if ds.isEmpty then some 1 else (readInt64 (String.ofList ds)).toOption
  let unit ← unitSecs? (String.ofList name)
  let secs := count.toInt * unit.toInt
  if Int64.maxValue.toInt < secs then none else ofSecs? (Int64.ofInt secs)

/-- The timeframe that a text names: plain seconds, or a label in any case, with blanks around.
mirrors `Timeframe::from_str` -/
def parse? (s : String) : Option Timeframe :=
  let raw := trimmed s
  match readInt64 raw with
  | .ok secs => ofSecs? secs
  | .error _ => ofLabel? (lowercase raw).toList

end Timeframe

/-- The rank of the coarsest timeframe in a mask; zero for none.
mirrors `mask_rank` -/
def rankOfMask (mask : Nat) : Nat := if mask = 0 then 0 else mask.log2 + 1

end ChartLayer
