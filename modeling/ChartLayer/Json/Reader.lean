import ChartLayer.Json.Basic
import ChartLayer.Number.Reading

/-!
# Reading a document

`Json.parse?` reads one JSON text as a whole. Numbers without fraction and exponent that fit in
sixty-four bits are whole numbers, all others doubles; a number beyond the largest double, a lone
half of a surrogate pair, a control character in a text, and nesting deeper than `Json.maxDepth`
are refused. A reader takes characters from the front and gives back the rest.
-/

namespace ChartLayer.Json

/-- How deep lists and records may lie in each other. -/
def maxDepth : Nat := 127

/-- The blanks of the format. -/
def isSpace (c : Char) : Bool := c == ' ' || c == '\n' || c == '\t' || c == '\r'

def skipSpace (cs : List Char) : List Char := cs.dropWhile isSpace

/-- Takes a word off the front. -/
def takeWord? : List Char → List Char → Option (List Char)
  | [], cs => some cs
  | w :: ws, c :: cs => if w = c then takeWord? ws cs else none
  | _ :: _, [] => none

/-! ## Numbers -/

/-- The number written by a sign, whole digits, fraction digits and an exponent, if it is in range.
`none` for fraction and exponent is a number without that part. -/
def numberOf? (negative : Bool) (whole : List Char) (fraction : Option (List Char))
    (exponent : Option Int) : Option JsonNumber :=
  let places := fraction.getD []
  let digits := digitsValue (whole ++ places)
  let asReal : Option JsonNumber :=
    let x := decimalFloat negative digits (exponent.getD 0 - places.length)
    if x.isInf then none else some (.real x)
  match fraction, exponent with
  | none, none =>
    if negative then
      if digits = 0 ∨ 0x8000000000000000 < digits then asReal else some (.whole (-(digits : Int)))
    else if digits < 0x10000000000000000 then some (.whole digits) else asReal
  | _, _ => asReal

/-- The digits after a point, at least one. -/
def takeFraction? : List Char → Option (Option (List Char) × List Char)
  | '.' :: rest =>
    let (ds, rest) := rest.span Char.isDigit
    if ds.isEmpty then none else some (some ds, rest)
  | cs => some (none, cs)

/-- The exponent after its mark, with a sign or none and at least one digit. -/
def takeExponent? : List Char → Option (Option Int × List Char)
  | c :: rest =>
    if c = 'e' ∨ c = 'E' then
      let (negative, rest) := splitSign rest
      let (ds, rest) := rest.span Char.isDigit
      if ds.isEmpty then none
      else some (some (if negative then -(digitsValue ds : Int) else digitsValue ds), rest)
    else some (none, c :: rest)
  | [] => some (none, [])

/-- A number; its whole part has no needless zero in front. -/
def takeNumber? (cs : List Char) : Option (JsonNumber × List Char) := do
  let (negative, cs) := match cs with
    | '-' :: rest => (true, rest)
    | _ => (false, cs)
  let (whole, rest) := cs.span Char.isDigit
  if whole.isEmpty || (whole.length != 1 && whole.head? == some '0') then none
  else
    let (fraction, rest) ← takeFraction? rest
    let (exponent, rest) ← takeExponent? rest
    let n ← numberOf? negative whole fraction exponent
    return (n, rest)

/-! ## Texts -/

/-- The value of a hexadecimal digit. -/
def hexValue? (c : Char) : Option Nat :=
  if c.isDigit then some (digitValue c)
  else if 'a' ≤ c ∧ c ≤ 'f' then some (c.toNat - 'a'.toNat + 10)
  else if 'A' ≤ c ∧ c ≤ 'F' then some (c.toNat - 'A'.toNat + 10)
  else none

/-- Four hexadecimal digits. -/
def takeHex4? : List Char → Option (Nat × List Char)
  | a :: b :: c :: d :: rest => do
    let a ← hexValue? a
    let b ← hexValue? b
    let c ← hexValue? c
    let d ← hexValue? d
    return (((a * 16 + b) * 16 + c) * 16 + d, rest)
  | _ => none

/-- The character of an escape by number, behind its `\u`; a high half takes its low half along. -/
def takeUnicode? (cs : List Char) : Option (Char × List Char) := do
  let (unit, rest) ← takeHex4? cs
  if 0xD800 ≤ unit ∧ unit < 0xDC00 then
    match rest with
    | '\\' :: 'u' :: rest =>
      let (low, rest) ← takeHex4? rest
      if 0xDC00 ≤ low ∧ low < 0xE000 then
        return (Char.ofNat (0x10000 + (unit - 0xD800) * 0x400 + (low - 0xDC00)), rest)
      else none
    | _ => none
  else if 0xDC00 ≤ unit ∧ unit < 0xE000 then none
  else return (Char.ofNat unit, rest)

/-- One character of a text, plain or escaped; `none` at its closing quote. -/
def takeChar? : List Char → Option (Option Char × List Char)
  | '"' :: rest => some (none, rest)
  | '\\' :: 'u' :: rest => (takeUnicode? rest).map fun (c, rest) => (some c, rest)
  | '\\' :: c :: rest =>
    match c with
    | '"' => some (some '"', rest)
    | '\\' => some (some '\\', rest)
    | '/' => some (some '/', rest)
    | 'b' => some (some (Char.ofNat 8), rest)
    | 'f' => some (some (Char.ofNat 12), rest)
    | 'n' => some (some '\n', rest)
    | 'r' => some (some '\r', rest)
    | 't' => some (some '\t', rest)
    | _ => none
  | c :: rest => if c.toNat < 0x20 ∨ c = '\\' then none else some (some c, rest)
  | [] => none

/-- The rest of a text up to its closing quote, behind the characters of `read`, latest first. Each
character takes one of `fuel`. -/
def takeText? : Nat → List Char → List Char → Option (String × List Char)
  | 0, _, _ => none
  | fuel + 1, read, cs =>
    match takeChar? cs with
    | some (some c, rest) => takeText? fuel (c :: read) rest
    | some (none, rest) => some (String.ofList read.reverse, rest)
    | none => none

/-! ## Values -/

mutual

/-- A value that begins at the front, with `depth` more levels allowed in it. Each call uses up one
of `fuel`, and a text needs no more than two calls for each of its characters. -/
def takeValue? : Nat → Nat → List Char → Option (Json × List Char)
  | 0, _, _ => none
  | fuel + 1, depth, cs =>
    match cs with
    | 'n' :: rest => (takeWord? ['u', 'l', 'l'] rest).map fun rest => (.null, rest)
    | 't' :: rest => (takeWord? ['r', 'u', 'e'] rest).map fun rest => (.bool true, rest)
    | 'f' :: rest => (takeWord? ['a', 'l', 's', 'e'] rest).map fun rest => (.bool false, rest)
    | '"' :: rest => (takeText? fuel [] rest).map fun (s, rest) => (.text s, rest)
    | '[' :: rest =>
      if depth = 0 then none
      else
        match skipSpace rest with
        | ']' :: rest => some (.list [], rest)
        | rest =>
          (takeItems? fuel (depth - 1) rest).map fun (items, rest) => (.list items, rest)
    | '{' :: rest =>
      if depth = 0 then none
      else
        match skipSpace rest with
        | '}' :: rest => some (.record [], rest)
        | rest =>
          (takeFields? fuel (depth - 1) rest).map fun (written, rest) =>
            (.record (fields written), rest)
    | cs => (takeNumber? cs).map fun (n, rest) => (.number n, rest)

/-- The items of a list up to its end, at least one. -/
def takeItems? : Nat → Nat → List Char → Option (List Json × List Char)
  | 0, _, _ => none
  | fuel + 1, depth, cs =>
    match takeValue? fuel depth cs with
    | none => none
    | some (item, rest) =>
      match skipSpace rest with
      | ',' :: rest =>
        (takeItems? fuel depth (skipSpace rest)).map fun (items, rest) => (item :: items, rest)
      | ']' :: rest => some ([item], rest)
      | _ => none

/-- The fields of a record up to its end, at least one. -/
def takeFields? : Nat → Nat → List Char → Option (List (String × Json) × List Char)
  | 0, _, _ => none
  | fuel + 1, depth, cs =>
    match cs with
    | '"' :: rest =>
      match takeText? fuel [] rest with
      | none => none
      | some (name, rest) =>
        match skipSpace rest with
        | ':' :: rest =>
          match takeValue? fuel depth (skipSpace rest) with
          | none => none
          | some (value, rest) =>
            match skipSpace rest with
            | ',' :: rest =>
              (takeFields? fuel depth (skipSpace rest)).map fun (others, rest) =>
                ((name, value) :: others, rest)
            | '}' :: rest => some ([(name, value)], rest)
            | _ => none
        | _ => none
    | _ => none

end

/-- The document that a text holds, with nothing but blanks around it. -/
def parse? (s : String) : Option Json :=
  let cs := skipSpace s.toList
  match takeValue? (2 * cs.length + 2) maxDepth cs with
  | some (value, rest) => if (skipSpace rest).isEmpty then some value else none
  | none => none

end ChartLayer.Json
