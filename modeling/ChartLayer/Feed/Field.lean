import ChartLayer.Issue
import ChartLayer.Json.Basic
import ChartLayer.Text.Lowercase
import ChartLayer.Time.Timestamp

/-!
# Loose fields

Deliveries name their fields in many ways and write numbers as texts and texts as numbers. The
functions here read one field of a record whatever its name and form:

* `Feed.field?`: the first field of several names that is there and not null.
* `Feed.number?`, `Feed.text?`, `Feed.flag?`: the value of such a field, if it has one.
* `Feed.entries`: the items of a delivery, which is a list or a record that holds lists.
-/

namespace ChartLayer.Feed

/-- The fields of a record. -/
abbrev Fields := List (String × Json)

/-- The first of the named fields that is there and not null.
mirrors `field` -/
def field? (fs : Fields) (names : List String) : Option Json :=
  names.findSome? fun name => (fs.lookup name).filter fun v => !v.isNull

/-- A number, or a text that reads as one.
mirrors `num` -/
def number? : Json → Option Float
  | .number n => some n.toFloat
  | .text s => readFloat? (trimmed s)
  | _ => none

/-- A text that is not blank, without the blanks around it, or the text of a number.
mirrors `text` -/
def text? : Json → Option String
  | .text s => if allBlank s then none else some (trimmed s)
  | .number n => some n.text
  | _ => none

/-- Yes or no: a truth value, a number that is zero or not, or a word.
mirrors `flag` -/
def flag? : Json → Option Bool
  | .bool b => some b
  | .number n => some (n.toFloat != 0.0)
  | .text s =>
    let word := lowercase (trimmed s)
    if ["true", "yes", "1"].contains word then some true
    else if ["false", "no", "0"].contains word then some false
    else none
  | _ => none

def numberOf? (fs : Fields) (names : List String) : Option Float := (field? fs names).bind number?

def textOf? (fs : Fields) (names : List String) : Option String := (field? fs names).bind text?

def flagOf? (fs : Fields) (names : List String) : Option Bool := (field? fs names).bind flag?

def timeOf? (fs : Fields) (names : List String) : Option Time := (field? fs names).bind timestamp?

/-- A number that is finite. -/
def finiteOf? (fs : Fields) (names : List String) : Option Float :=
  (numberOf? fs names).filter Float.isFinite

/-- Several texts, or one.
mirrors `why_list` -/
def textsOf (fs : Fields) (names : List String) : List String :=
  match field? fs names with
  | some (.list items) => items.filterMap text?
  | some v => (text? v).toList
  | none => []

/-- A value that must be there. -/
def require {α : Type} (issue : Issue) : Option α → Except Issue α
  | some a => .ok a
  | none => .error issue

/-- The fields of an item, which must be a record.
mirrors `require_object` -/
def fieldsOf (what : String) : Json → Except Issue Fields
  | .record fs => .ok fs
  | _ => .error (.notRecord what)

/-- A word in lower case, with hyphens and spaces as underscores. -/
def joinedWord (s : String) : String :=
  (lowercase s).map fun c => if c = '-' ∨ c = ' ' then '_' else c

/-- The items of a list, or of all lists that a record holds under the keys.
mirrors `items_of` -/
def entries (keys : List String) : Json → List Json
  | .list items => items
  | .record fs => keys.flatMap fun key => ((fs.lookup key).bind Json.items?).getD []
  | _ => []

/-! ## What comes of a delivery -/

/-- The items that could be used, and an issue for each one that could not.
mirrors `Normalized` -/
structure Delivery (α : Type) where
  items : List α := []
  issues : List Issue := []
  deriving DecidableEq, Repr

/-- A delivery from the results for its entries.
mirrors `Normalized::push` -/
def Delivery.ofResults {α : Type} (results : List (Except Issue α)) : Delivery α where
  items := results.filterMap fun | .ok item => some item | .error _ => none
  issues := results.filterMap fun | .ok _ => none | .error issue => some issue

end ChartLayer.Feed
