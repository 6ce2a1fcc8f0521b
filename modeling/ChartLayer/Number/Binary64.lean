/-!
# Doubles as exact numbers

A `Float` is a bit pattern. `Binary64.ofFloat` reads it as `± significand · 2^exponent`, and every
exact rule of this library (rounding, flooring, decimal text, the total order) is stated on those
parts, in whole-number arithmetic.

* `totalOrder`: the order that lists every double, `-0` before `0` and the positive NaN last.
* `roundAway`: the nearest whole number, halves away from zero.
* `floorInt?`: the greatest whole number below.
* `saturate`: a whole number as a 64-bit one, held at the ends of the range.
-/

namespace ChartLayer

/-- The number that a double stands for. -/
inductive Binary64 where
  | undefined
  | infinite (negative : Bool)
  | finite (negative : Bool) (significand : Nat) (exponent : Int)
  deriving DecidableEq, Repr

namespace Binary64

/-- The place of the sign. -/
def signBit : Nat := 0x8000000000000000

/-- The bit in front of the fraction, which the pattern leaves out. -/
def hiddenBit : Nat := 0x10000000000000

/-- The number of exponent fields. -/
def fieldCount : Nat := 0x800

/-- Sign, exponent and fraction fields of the pattern; a zero exponent field has no hidden bit. -/
def ofFloat (x : Float) : Binary64 :=
  let bits := x.toBits.toNat
  let negative := decide (signBit ≤ bits)
  let field : Nat := bits / hiddenBit % fieldCount
  let fraction : Nat := bits % hiddenBit
  if field = 2047 then
    if fraction = 0 then .infinite negative else .undefined
  else if field = 0 then
    .finite negative fraction (-1074)
  else
    .finite negative (hiddenBit + fraction) ((field : Int) - 1075)

end Binary64

/-- A power of two. -/
def twoPow (n : Nat) : Nat := Nat.pow 2 n

/-- A power of ten. -/
def tenPow (n : Nat) : Nat := Nat.pow 10 n

def positiveInfinity : Float := 1.0 / 0.0

def negativeInfinity : Float := -positiveInfinity

/-! ## The total order -/

/-- The place of a double among all doubles: patterns with the sign bit count downwards. -/
def orderKey (x : Float) : Int :=
  let bits := x.toBits.toNat
  if bits < Binary64.signBit then (bits : Int) else (Binary64.signBit : Int) - 1 - (bits : Int)

/-- Compares two doubles by their place, so that `-0` comes before `0` and NaN after `∞`. The one
NaN stands here for the one that data holds, whose sign bit is clear. -/
def totalOrder (x y : Float) : Ordering := compare (orderKey x) (orderKey y)

/-! ## Whole numbers -/

/-- The nearest whole number, a half going away from zero; the sign stays, on zero too. -/
def roundAway (x : Float) : Float :=
  match Binary64.ofFloat x with
  | .finite negative m e =>
    if 0 ≤ e then x
    else
      let unit := twoPow (-e).toNat
      let whole := Float.ofNat ((2 * m + unit) / (2 * unit))
      if negative then -whole else whole
  | _ => x

/-- The greatest whole number that is not above `x`; NaN and the infinities have none. -/
def floorInt? (x : Float) : Option Int :=
  match Binary64.ofFloat x with
  | .finite negative m e =>
    let signed : Int := if negative then -m else m
    some (if 0 ≤ e then signed * twoPow e.toNat else signed.fdiv (twoPow (-e).toNat))
  | _ => none

/-- A whole number as a 64-bit one; what lies outside the range becomes its nearer end. -/
def saturate (n : Int) : Int64 :=
  Int64.ofInt (max Int64.minValue.toInt (min n Int64.maxValue.toInt))

end ChartLayer
