import ChartLayer.Text.LetterCase

/-!
# Lower case

The full lower case of a text. Each character is mapped on its own, with two exceptions of the
standard: dotted capital I becomes two characters, and a capital sigma that ends a word becomes the
final sigma. A word ends where, looking through ignorable characters, a cased one stands before and
none behind.
-/

namespace ChartLayer

namespace LetterCase

def inRanges (ranges : List (Nat × Nat)) (c : Char) : Bool :=
  ranges.any fun (first, last) => first ≤ c.toNat && c.toNat ≤ last

def isCased (c : Char) : Bool := inRanges casedRanges c

def isIgnorable (c : Char) : Bool := inRanges ignorableRanges c

/-- Whether the first character that counts is a cased one. -/
def meetsCased (cs : List Char) : Bool :=
  match cs.dropWhile isIgnorable with
  | [] => false
  | c :: _ => isCased c

/-- The lower case of a character on its own. -/
def lower (c : Char) : List Char :=
  if c.toNat < 0x80 then [c.toLower]
  else if c.toNat = 0x130 then ['i', Char.ofNat 0x307]
  else
    let n := c.toNat
    match lowerRanges.find? fun r => r.first ≤ n && n ≤ r.last && (n - r.first) % r.step == 0 with
    | some r => [Char.ofNat ((n : Int) + r.shift).toNat]
    | none => [c]

/-- The lower case of `cs` after the characters of `before`, the nearest of which comes first. -/
def lowerAfter (before : List Char) : List Char → List Char
  | [] => []
  | c :: rest =>
    let here :=
      if c = 'Σ' then [if meetsCased before && !meetsCased rest then 'ς' else 'σ'] else lower c
    here ++ lowerAfter (c :: before) rest

end LetterCase

/-- The lower case of a text. -/
def lowercase (s : String) : String := String.ofList (LetterCase.lowerAfter [] s.toList)

end ChartLayer
