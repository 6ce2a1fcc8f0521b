import ChartLayer.Number.Binary64

/-!
# The fewest digits that read back

A double is written with the least number of decimal digits that still reads back as the same
double, and among the texts of that length with the one nearest to its value. All reals that round
to `m · 2^e` form an interval; `shortest` walks the decimal grids from coarse to fine and takes the
first on which one of the two neighbours of the value lies in that interval. What happens at an
exact tie is left to the format, as the parameter `tie`.
-/

namespace ChartLayer

/-- The number `digits · 10^place`. -/
structure Decimal where
  digits : Nat
  place : Int
  deriving DecidableEq, Repr

namespace Decimal

/-- Which of two equally near neighbours is written. -/
inductive Tie where
  | upper
  | even
  deriving DecidableEq, Repr

/-- Whether the neighbour above `floor` is taken at a tie. -/
def Tie.takesUpper : Tie → Nat → Bool
  | .upper, _ => true
  | .even, floor => floor % 2 == 1

/-- The reals that round to one double, as whole numbers over one denominator. -/
structure Rounding where
  low : Nat
  value : Nat
  high : Nat
  denominator : Nat
  /-- Whether the ends themselves round to the double. -/
  closed : Bool
  deriving Repr

/-- The rounding interval of `m · 2^e`. Below a power of two the next double is half as far, save
at the bottom of the range; the ends belong to the interval when `m` is even. -/
def Rounding.of (m : Nat) (e : Int) : Rounding :=
  let below := if m = Binary64.hiddenBit ∧ e ≠ -1074 then 1 else 2
  let scale := twoPow (e - 2).toNat
  { low := (4 * m - below) * scale
    value := 4 * m * scale
    high := (4 * m + 2) * scale
    denominator := twoPow (2 - e).toNat
    closed := m % 2 == 0 }

/-- The exponent of the leading decimal digit of `value / denominator`. An estimate from the binary
length is low by at most one. -/
def Rounding.magnitude (r : Rounding) : Int :=
  let bits : Int := r.value.log2 - r.denominator.log2
  let estimate := (bits * 30103).fdiv 100000
  let next := estimate + 1
  if r.denominator * tenPow next.toNat ≤ r.value * tenPow (-next).toNat then next else estimate

/-- The neighbours of the value on the grid of multiples of `10^place`: the one inside the interval,
the nearer of two, and at a tie the one that `tie` names. -/
def Rounding.onGrid? (r : Rounding) (tie : Tie) (place : Int) : Option Decimal :=
  let stretch := tenPow (-place).toNat
  let unit := r.denominator * tenPow place.toNat
  let value := r.value * stretch
  let low := r.low * stretch
  let high := r.high * stretch
  let floor := value / unit
  let rest := value % unit
  let inside (n : Nat) : Bool :=
    if r.closed then decide (low ≤ n ∧ n ≤ high) else decide (low < n ∧ n < high)
  match inside (floor * unit), inside ((floor + 1) * unit) with
  | true, true =>
    let up := if 2 * rest = unit then tie.takesUpper floor else decide (unit < 2 * rest)
    some ⟨if up then floor + 1 else floor, place⟩
  | true, false => some ⟨floor, place⟩
  | false, true => some ⟨floor + 1, place⟩
  | false, false => none

/-- Walks to finer grids until one has a hit. -/
def Rounding.walk (r : Rounding) (tie : Tie) : Nat → Int → Decimal
  | 0, place => ⟨r.value * tenPow (-place).toNat / (r.denominator * tenPow place.toNat), place⟩
  | more + 1, place =>
    match r.onGrid? tie place with
    | some d => d
    | none => r.walk tie more (place - 1)

/-- Ten times one digit is one digit a place higher. -/
def carry (d : Decimal) : Decimal :=
  if d.digits = 10 then ⟨1, d.place + 1⟩ else d

/-- The fewest digits for `m · 2^e`; seventeen always suffice. -/
def shortest (tie : Tie) (m : Nat) (e : Int) : Decimal :=
  if m = 0 then ⟨0, 0⟩
  else
    let r := Rounding.of m e
    (r.walk tie 17 r.magnitude).carry

/-- The digits as characters. -/
def numerals (n : Nat) : List Char := Nat.toDigits 10 n

end Decimal

end ChartLayer
