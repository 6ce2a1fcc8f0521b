import ChartLayer.Json.Basic
import ChartLayer.Number.Reading
import ChartLayer.Text.Blank
import ChartLayer.Time.Calendar
import ChartLayer.Time.Timeframe

/-!
# Points in time

A point in time comes as a number of seconds, as a number of milliseconds (known by its size), as
such a number in a text, or as a date and time of day.

* `readInternet?`: `2025-06-23T16:30:00Z`, with a fraction and an offset from universal time.
* `readCivil?`: `2025-06-23 16:30:00` in universal time, with fields that need no padding.
* `timestamp?`: any of them, from a document.

The sixtieth second is a leap second and counts as the fifty-ninth.
-/

namespace ChartLayer

namespace Timestamp

/-- The digits in front, at least `least` and at most `most` of them. -/
def takeDigits? (least most : Nat) (cs : List Char) : Option (Nat × List Char) :=
  let ds := (cs.take most).takeWhile Char.isDigit
  if ds.length < least then none else some (digitsValue ds, cs.drop ds.length)

/-- The character that must come next. -/
def takeChar? (c : Char) : List Char → Option (List Char)
  | d :: rest => if d = c then some rest else none
  | [] => none

/-- A date and a time of day in seconds, if there is such a time. -/
def civilSeconds? (year : Int) (month day hour minute second : Nat) : Option Int :=
  if Calendar.isDate year month day && hour ≤ 23 && minute ≤ 59 && second ≤ 60 then
    some (Calendar.seconds year month day hour minute (min second 59))
  else none

/-! ## With an offset -/

/-- An optional fraction of a second. -/
def dropFraction? : List Char → Option (List Char)
  | '.' :: rest =>
    match rest with
    | d :: _ => if d.isDigit then some (rest.dropWhile Char.isDigit) else none
    | [] => none
  | cs => some cs

/-- The offset from universal time in seconds: `Z`, or hours and minutes ahead of it. A minus may
also be the sign U+2212. -/
def takeOffset? : List Char → Option (Int × List Char)
  | [] => none
  | c :: rest =>
    if c = 'Z' ∨ c = 'z' then some (0, rest)
    else if c = '+' ∨ c = '-' ∨ c = '\u2212' then do
      let (hours, rest) ← takeDigits? 2 2 rest
      let rest ← takeChar? ':' rest
      let (minutes, rest) ← takeDigits? 2 2 rest
      if hours ≤ 23 ∧ minutes ≤ 59 then
        let ahead : Int := hours * 3600 + minutes * 60
        return (if c = '+' then ahead else -ahead, rest)
      else none
    else none

/-- Date, time of day and offset, all of fixed width. -/
def readInternet? (s : String) : Option Int := do
  let (year, cs) ← takeDigits? 4 4 s.toList
  let cs ← takeChar? '-' cs
  let (month, cs) ← takeDigits? 2 2 cs
  let cs ← takeChar? '-' cs
  let (day, cs) ← takeDigits? 2 2 cs
  let cs ← (takeChar? 'T' cs).or ((takeChar? 't' cs).or (takeChar? ' ' cs))
  let (hour, cs) ← takeDigits? 2 2 cs
  let cs ← takeChar? ':' cs
  let (minute, cs) ← takeDigits? 2 2 cs
  let cs ← takeChar? ':' cs
  let (second, cs) ← takeDigits? 2 2 cs
  let cs ← dropFraction? cs
  let (offset, cs) ← takeOffset? cs
  if cs.isEmpty then
    let local_ ← civilSeconds? year month day hour minute second
    return local_ - offset
  else none

/-! ## In universal time -/

def skipBlank (cs : List Char) : List Char := cs.dropWhile isBlank

/-- The years that have a date. -/
def yearInRange (year : Int) : Bool := -262143 ≤ year && year ≤ 262142

/-- A year: up to four digits, or a sign and any number of them. -/
def takeYear? (cs : List Char) : Option (Int × List Char) :=
  match cs with
  | '-' :: rest => (takeDigits? 1 rest.length rest).map fun (n, rest) => (-(n : Int), rest)
  | '+' :: rest => (takeDigits? 1 rest.length rest).map fun (n, rest) => ((n : Int), rest)
  | cs => (takeDigits? 1 4 cs).map fun (n, rest) => ((n : Int), rest)

/-- A field of one or two digits, behind any blanks. -/
def takeField? (cs : List Char) : Option (Nat × List Char) := takeDigits? 1 2 (skipBlank cs)

/-- Date and time of day, with blanks before any field. -/
def readCivil? (s : String) : Option Int := do
  let (year, cs) ← takeYear? (skipBlank s.toList)
  let cs ← takeChar? '-' cs
  let (month, cs) ← takeField? cs
  let cs ← takeChar? '-' cs
  let (day, cs) ← takeField? cs
  let (hour, cs) ← takeField? cs
  let cs ← takeChar? ':' cs
  let (minute, cs) ← takeField? cs
  let cs ← takeChar? ':' cs
  let (second, cs) ← takeField? cs
  if cs.isEmpty && yearInRange year then civilSeconds? year month day hour minute second else none

/-! ## From a number -/

/-- From this size on a number counts milliseconds. -/
def millisecondsFrom : Float := 1e11

/-- Whole seconds, rounded down; numbers beyond sixty-four bits stop at the end of their range.
mirrors `seconds_from_number` -/
def ofFloat? (x : Float) : Option Time :=
  let seconds := if millisecondsFrom ≤ x.abs then x / 1000.0 else x
  if x.isFinite then (floorInt? seconds).map saturate else none

/-- From a text: a number, or a date and time of day. -/
def ofText? (s : String) : Option Time :=
  let s := trimmed s
  match readFloat? s with
  | some x => ofFloat? x
  | none => ((readInternet? s).or (readCivil? s)).map Int64.ofInt

end Timestamp

/-- The point in time that a document gives.
mirrors `parse_timestamp` -/
def timestamp? : Json → Option Time
  | .number n => Timestamp.ofFloat? n.toFloat
  | .text s => Timestamp.ofText? s
  | _ => none

end ChartLayer
