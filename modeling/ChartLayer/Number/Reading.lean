import ChartLayer.Number.Binary64

/-!
# Reading numbers

The texts that count as numbers, and what is wrong with those that do not.

* `readFloat?`: an optional sign, then a decimal with digits before or after the point and an
  optional exponent, or one of the words for infinity and NaN in any case.
* `readInteger`: an optional sign and digits. The first character that is no digit, or that carries
  the number out of range, decides the fault.
-/

namespace ChartLayer

/-- What holds of the ten digits holds of every digit. -/
theorem of_isDigit {p : Char → Prop} (hall : ∀ n < 58, 48 ≤ n → p (Char.ofNat n)) {c : Char}
    (h : c.isDigit = true) : p c := by
  have hzero : '0'.toNat = 48 := rfl
  have hnine : '9'.toNat = 57 := rfl
  rw [Char.isDigit_iff_toNat, hzero, hnine] at h
  have hc := hall c.toNat (by omega) h.1
  rwa [Char.ofNat_toNat] at hc

/-- The value of one decimal digit. -/
def digitValue (c : Char) : Nat := c.toNat - '0'.toNat

/-- The value of a run of digits. -/
def digitsValue (ds : List Char) : Nat := ds.foldl (fun n d => 10 * n + digitValue d) 0

/-- Splits off an optional sign; `true` is a minus. -/
def splitSign : List Char → Bool × List Char
  | '-' :: rest => (true, rest)
  | '+' :: rest => (false, rest)
  | cs => (false, cs)

/-! ## Floats -/

/-- From this exponent on every decimal but zero is beyond the largest double. -/
def leastHugeExponent : Int := 310

/-- Below this place of its first digit a decimal is nearer to zero than to the least double. -/
def leastTinyPlace : Int := -330

/-- The decimal `digits · 10^exponent`, rounded to the nearest double. Decimals far out of range are
told by their exponent, because `digits` is below `10^(log2 digits + 1)`. -/
def decimalFloat (negative : Bool) (digits : Nat) (exponent : Int) : Float :=
  let magnitude :=
    if digits = 0 ∨ exponent + digits.log2 + 1 < leastTinyPlace then 0.0
    else if leastHugeExponent ≤ exponent then positiveInfinity
    else Float.ofScientific digits (decide (exponent < 0)) exponent.natAbs
  if negative then -magnitude else magnitude

/-- The exponent at the end of a decimal: nothing, or `e`, a sign and at least one digit. -/
def readExponent? : List Char → Option Int
  | [] => some 0
  | c :: rest =>
    if c = 'e' ∨ c = 'E' then
      let (negative, ds) := splitSign rest
      if ds.isEmpty || !ds.all Char.isDigit then none
      else some (if negative then -(digitsValue ds : Int) else digitsValue ds)
    else none

/-- Digits, an optional point with digits, an optional exponent. -/
def readDecimal? (negative : Bool) (cs : List Char) : Option Float :=
  let (whole, rest) := cs.span Char.isDigit
  let (fraction, rest) :=
    match rest with
    | '.' :: rest => rest.span Char.isDigit
    | _ => ([], rest)
  if whole.isEmpty && fraction.isEmpty then none
  else (readExponent? rest).map fun e =>
    decimalFloat negative (digitsValue (whole ++ fraction)) (e - fraction.length)

/-- The words that stand for no decimal. -/
def readWord? (negative : Bool) (cs : List Char) : Option Float :=
  let word := String.ofList (cs.map Char.toLower)
  if word = "inf" ∨ word = "infinity" then
    some (if negative then negativeInfinity else positiveInfinity)
  else if word = "nan" then some (0.0 / 0.0)
  else none

/-- The double that a text stands for, if it is a number. -/
def readFloat? (s : String) : Option Float :=
  let (negative, cs) := splitSign s.toList
  (readDecimal? negative cs).or (readWord? negative cs)

/-! ## Integers -/

/-- Why a text is no integer of the wanted range. -/
inductive IntegerFault where
  | empty
  | badDigit
  | tooLarge
  | tooSmall
  deriving DecidableEq, Repr

def IntegerFault.message : IntegerFault → String
  | .empty => "cannot parse integer from empty string"
  | .badDigit => "invalid digit found in string"
  | .tooLarge => "number too large to fit in target type"
  | .tooSmall => "number too small to fit in target type"

/-- Adds one digit to what is read so far, away from zero. -/
def readDigit (low high : Int) (negative : Bool) (n : Int) (c : Char) : Except IntegerFault Int :=
  if !c.isDigit then .error .badDigit
  else if negative then
    let next := 10 * n - digitValue c
    if next < low then .error .tooSmall else .ok next
  else
    let next := 10 * n + digitValue c
    if high < next then .error .tooLarge else .ok next

/-- The integer that a text stands for, if it lies between `low` and `high`. A minus is a sign only
where negative numbers are in range. -/
def readInteger (low high : Int) (s : String) : Except IntegerFault Int :=
  match s.toList with
  | [] => .error .empty
  | ['+'] | ['-'] => .error .badDigit
  | '+' :: ds => ds.foldlM (readDigit low high false) 0
  | '-' :: ds =>
    if low < 0 then ds.foldlM (readDigit low high true) 0 else .error .badDigit
  | ds => ds.foldlM (readDigit low high false) 0

/-- A signed 64-bit integer. -/
def readInt64 (s : String) : Except IntegerFault Int64 :=
  (readInteger Int64.minValue.toInt Int64.maxValue.toInt s).map Int64.ofInt

/-- An unsigned 64-bit integer, as a natural number. -/
def readNat64 (s : String) : Except IntegerFault Nat :=
  (readInteger 0 0xFFFFFFFFFFFFFFFF s).map Int.toNat

end ChartLayer
