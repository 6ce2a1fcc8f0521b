import ChartLayer.Number.Shortest

/-!
# Decimal notations

The digits of a double are one thing, the way they are laid out another. A `Notation` holds the
decisions of one output format; `write` lays out the shortest digits by them. `writeFixed` is the
other kind of text: a given number of places, rounded from the exact value.

* `Notation.plain`: never an exponent, no point on a whole number. Messages use it.
* `Notation.document`: an exponent outside of sixteen digits before the point and five zeros behind
  it, with its sign, and a whole number keeps `.0`. Documents use it.
* `Notation.table`: the same without the plus sign of an exponent. Tables use it.
-/

namespace ChartLayer

open Decimal (numerals)

/-- How the digits of a double are laid out. -/
structure Notation where
  /-- Whether a number is written without exponent whose point stands this many places after the
  front of its first digit. -/
  positional : Int → Bool
  /-- What a whole number ends in. -/
  wholeMark : String
  /-- What stands before an exponent that is not negative. -/
  plusMark : String
  /-- Which of two equally near texts is taken. -/
  tie : Decimal.Tie

namespace Notation

def plain : Notation where
  positional _ := true
  wholeMark := ""
  plusMark := ""
  tie := .upper

def document : Notation where
  positional point := decide (-5 < point ∧ point ≤ 16)
  wholeMark := ".0"
  plusMark := "+"
  tie := .even

def table : Notation := { document with plusMark := "" }

/-- The digits with the point `point` places behind the front of the first. -/
def position (wholeMark : String) (ds : List Char) (point : Int) : String :=
  if point ≤ 0 then
    "0." ++ String.ofList (List.replicate (-point).toNat '0' ++ ds)
  else
    let before := point.toNat
    if ds.length ≤ before then
      String.ofList (ds ++ List.replicate (before - ds.length) '0') ++ wholeMark
    else
      String.ofList (ds.take before) ++ "." ++ String.ofList (ds.drop before)

/-- One digit before the point, and the exponent of that digit. -/
def scientific (plusMark : String) (ds : List Char) (point : Int) : String :=
  let mantissa :=
    match ds with
    | [] => ""
    | [d] => String.singleton d
    | d :: rest => String.singleton d ++ "." ++ String.ofList rest
  let e := point - 1
  mantissa ++ "e" ++ (if e < 0 then "-" else plusMark) ++ String.ofList (numerals e.natAbs)

/-- The text of a double. -/
def write (layout : Notation) (x : Float) : String :=
  match Binary64.ofFloat x with
  | .undefined => "NaN"
  | .infinite negative => if negative then "-inf" else "inf"
  | .finite negative m e =>
    let sign := if negative then "-" else ""
    if m = 0 then sign ++ "0" ++ layout.wholeMark
    else
      let d := Decimal.shortest layout.tie m e
      let ds := numerals d.digits
      let point := d.place + ds.length
      sign ++ if layout.positional point then position layout.wholeMark ds point
        else scientific layout.plusMark ds point

end Notation

/-- The quotient rounded to the nearest whole number, a half going to the even one. -/
def divNearestEven (num den : Nat) : Nat :=
  let q := num / den
  let r := num % den
  if den < 2 * r then q + 1
  else if 2 * r = den then q + q % 2
  else q

/-- The exact value of `x` rounded to `places` decimals, a half going to the even digit. -/
def writeFixed (places : Nat) (x : Float) : String :=
  match Binary64.ofFloat x with
  | .undefined => "NaN"
  | .infinite negative => if negative then "-inf" else "inf"
  | .finite negative m e =>
    let scaled := divNearestEven (m * tenPow places * twoPow e.toNat) (twoPow (-e).toNat)
    let ds := numerals scaled
    let padded := List.replicate (places + 1 - ds.length) '0' ++ ds
    let before := padded.length - places
    (if negative then "-" else "") ++ String.ofList (padded.take before)
      ++ (if places = 0 then "" else "." ++ String.ofList (padded.drop before))

end ChartLayer
