import ChartLayer.Number.Notation

/-!
# Documents

A JSON document as a value. Numbers keep the kind in which they were written, because a number that
stands where a text is expected is read as its own text: a whole number as an integer, any other as
a double in `Notation.document`.

The fields of a record form a list without repeated names; `Json.fields` builds one from fields in
the order of a document, where the last field of a name is the one that counts.
-/

namespace ChartLayer

/-- A number of a document. -/
inductive JsonNumber where
  | whole (n : Int)
  | real (x : Float)
  deriving DecidableEq, Repr

namespace JsonNumber

/-- The nearest double. -/
def toFloat : JsonNumber → Float
  | .whole n => Float.ofInt n
  | .real x => x

/-- The text of a number. -/
def text : JsonNumber → String
  | .whole n => if n < 0 then "-" ++ Nat.repr n.natAbs else Nat.repr n.natAbs
  | .real x => Notation.document.write x

end JsonNumber

/-- A JSON document. -/
inductive Json where
  | null
  | bool (b : Bool)
  | number (n : JsonNumber)
  | text (s : String)
  | list (items : List Json)
  | record (fields : List (String × Json))
  deriving Repr, Inhabited

namespace Json

/-- A whole number as a document. -/
def int (n : Int) : Json := .number (.whole n)

/-- A count as a document. -/
def nat (n : Nat) : Json := .number (.whole n)

/-- A double as a document; documents have no NaN and no infinity. -/
def float (x : Float) : Json := if x.isFinite then .number (.real x) else .null

/-- An optional value; what is missing is null. -/
def option {α : Type} (f : α → Json) : Option α → Json
  | some a => f a
  | none => .null

def isNull : Json → Bool
  | .null => true
  | _ => false

/-- Puts a field into a list of fields, in the place of one of that name if there is one. -/
def putField (name : String) (value : Json) : List (String × Json) → List (String × Json)
  | [] => [(name, value)]
  | (n, v) :: rest => if n = name then (n, value) :: rest else (n, v) :: putField name value rest

/-- The fields of a document in order, of which the last of a name counts. -/
def fields (written : List (String × Json)) : List (String × Json) :=
  written.foldl (fun acc (n, v) => putField n v acc) []

/-- The field of a record. -/
def get? (name : String) : Json → Option Json
  | .record fs => fs.lookup name
  | _ => none

/-- The items of a list. -/
def items? : Json → Option (List Json)
  | .list items => some items
  | _ => none

end Json

end ChartLayer
