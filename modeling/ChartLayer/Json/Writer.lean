import ChartLayer.Json.Basic

/-!
# Writing a document

Two layouts of one document: `Json.compact` without a blank, and `Json.pretty` with each item and
each field on a line of its own, two spaces deeper than what holds it.
-/

namespace ChartLayer.Json

/-- A character inside of quotes. -/
def escape (c : Char) : List Char :=
  if c = '"' then ['\\', '"']
  else if c = '\\' then ['\\', '\\']
  else if c = '\n' then ['\\', 'n']
  else if c = '\r' then ['\\', 'r']
  else if c = '\t' then ['\\', 't']
  else if c.toNat = 8 then ['\\', 'b']
  else if c.toNat = 12 then ['\\', 'f']
  else if c.toNat < 0x20 then
    ['\\', 'u', '0', '0', Nat.digitChar (c.toNat / 16), Nat.digitChar (c.toNat % 16)]
  else [c]

/-- A text in quotes. -/
def quote (s : String) : String := "\"" ++ String.ofList (s.toList.flatMap escape) ++ "\""

mutual

/-- The document on one line, without blanks. -/
def compact : Json → String
  | .null => "null"
  | .bool b => if b then "true" else "false"
  | .number n => n.text
  | .text s => quote s
  | .list items => "[" ++ String.intercalate "," (compactItems items) ++ "]"
  | .record fs => "\x7b" ++ String.intercalate "," (compactFields fs) ++ "\x7d"

def compactItems : List Json → List String
  | [] => []
  | item :: rest => compact item :: compactItems rest

def compactFields : List (String × Json) → List String
  | [] => []
  | (name, value) :: rest => (quote name ++ ":" ++ compact value) :: compactFields rest

end

/-- Parts on lines of their own between two brackets, `depth` levels deep. -/
def block (depth : Nat) (opening closing : String) (parts : List String) : String :=
  let indent (n : Nat) := "\n" ++ String.ofList (List.replicate (2 * n) ' ')
  match parts with
  | [] => opening ++ closing
  | parts =>
    opening ++ indent (depth + 1) ++ String.intercalate ("," ++ indent (depth + 1)) parts
      ++ indent depth ++ closing

mutual

/-- The document over several lines, beginning `depth` levels deep. -/
def prettyAt (depth : Nat) : Json → String
  | .list items => block depth "[" "]" (prettyItems (depth + 1) items)
  | .record fs => block depth "\x7b" "\x7d" (prettyFields (depth + 1) fs)
  | .null => "null"
  | .bool b => if b then "true" else "false"
  | .number n => n.text
  | .text s => quote s

def prettyItems (depth : Nat) : List Json → List String
  | [] => []
  | item :: rest => prettyAt depth item :: prettyItems depth rest

def prettyFields (depth : Nat) : List (String × Json) → List String
  | [] => []
  | (name, value) :: rest => (quote name ++ ": " ++ prettyAt depth value) :: prettyFields depth rest

end

/-- The document over several lines. -/
def pretty (doc : Json) : String := prettyAt 0 doc

end ChartLayer.Json
