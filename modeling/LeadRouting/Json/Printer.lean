import LeadRouting.Json.Basic
import LeadRouting.Number.Layout
import LeadRouting.Text.Quoted

/-!
# Writing documents

A value is written on one line without blanks (`compact`) or one part a line with two blanks of
indentation for each level (`pretty`). In a text only the quote, the backslash and the controls are
escaped. A float that is no number or infinite has no numeral and is written as null.
-/

namespace LeadRouting.Json

open LeadRouting.Number

/-! ## 1. Scalars -/

/-- One character of a text. -/
def escapedChar (c : Char) : String :=
  if c = '"' then "\\\""
  else if c = '\\' then "\\\\"
  else if c = '\x08' then "\\b"
  else if c = '\t' then "\\t"
  else if c = '\n' then "\\n"
  else if c = '\x0c' then "\\f"
  else if c = '\r' then "\\r"
  else if c.toNat < 0x20 then
    "\\u" ++ zeros (4 - (Text.hexDigits c.toNat).length) ++ Text.hexDigits c.toNat
  else c.toString

/-- A text between quotes. -/
def quote (s : String) : String :=
  "\"" ++ s.foldl (fun out c => out ++ escapedChar c) "" ++ "\""

/-- The numeral of a float, or null. -/
def writeFloat (x : Float) : String :=
  if finite x then Layout.document.write x else "null"

/-- A scalar. -/
def writeScalar : Scalar → String
  | .null => "null"
  | .bool true => "true"
  | .bool false => "false"
  | .int n => toString n
  | .float x => writeFloat x
  | .text s => quote s

/-! ## 2. On one line -/

mutual

/-- The value without blanks. -/
def compact : Json → String
  | .scalar s => writeScalar s
  | .list items => "[" ++ String.intercalate "," (compactList items) ++ "]"
  | .record fields => "\x7b" ++ String.intercalate "," (compactFields fields) ++ "\x7d"

/-- The values of a list. -/
def compactList : List Json → List String
  | [] => []
  | v :: rest => compact v :: compactList rest

/-- The entries of a record. -/
def compactFields : List (String × Json) → List String
  | [] => []
  | (k, v) :: rest => (quote k ++ ":" ++ compact v) :: compactFields rest

end

/-! ## 3. One part a line -/

/-- The parts of a list or record between its brackets, each on a line of its own. -/
def bracketed (left right : String) (depth : Nat) (parts : List String) : String :=
  if parts.isEmpty then left ++ right
  else
    let margin := "".pushn ' ' (2 * depth)
    left ++ "\n" ++ String.intercalate ",\n" (parts.map fun p => margin ++ "  " ++ p)
      ++ "\n" ++ margin ++ right

mutual

/-- The value over several lines, inside `depth` other ones. -/
def prettyAt : Nat → Json → String
  | _, .scalar s => writeScalar s
  | depth, .list items => bracketed "[" "]" depth (prettyList (depth + 1) items)
  | depth, .record fields => bracketed "\x7b" "\x7d" depth (prettyFields (depth + 1) fields)

/-- The values of a list. -/
def prettyList : Nat → List Json → List String
  | _, [] => []
  | depth, v :: rest => prettyAt depth v :: prettyList depth rest

/-- The entries of a record. -/
def prettyFields : Nat → List (String × Json) → List String
  | _, [] => []
  | depth, (k, v) :: rest => (quote k ++ ": " ++ prettyAt depth v) :: prettyFields depth rest

end

/-- The value over several lines. -/
def pretty (v : Json) : String := prettyAt 0 v

end LeadRouting.Json
