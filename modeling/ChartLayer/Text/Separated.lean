/-!
# Comma-separated tables

A table is a line of fields for each row. A field that holds a comma, a quote or the end of a line
is put in quotes, and a quote inside it is written twice.
-/

namespace ChartLayer.Separated

/-- The characters that a bare field cannot hold. -/
def isSpecial (c : Char) : Bool := c = ',' || c = '"' || c = '\n' || c = '\r'

/-- A text with each quote written twice. -/
def doubled : List Char → List Char
  | [] => []
  | c :: rest => if c = '"' then '"' :: '"' :: doubled rest else c :: doubled rest

/-- One field, in quotes if it needs them. -/
def field (s : String) : String :=
  if s.toList.any isSpecial then "\"" ++ String.ofList (doubled s.toList) ++ "\"" else s

/-- One row, with the end of its line. -/
def line (fields : List String) : String := String.intercalate "," (fields.map field) ++ "\n"

/-- The rows under a line of titles. Without rows there is nothing at all. -/
def table (titles : List String) (rows : List (List String)) : String :=
  if rows.isEmpty then "" else String.join ((titles :: rows).map line)

end ChartLayer.Separated
