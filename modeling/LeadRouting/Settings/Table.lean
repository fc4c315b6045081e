import LeadRouting.Document.Plain
import LeadRouting.Text.Lowercase

/-!
# Tables of settings

A table holds values under names, which count in small letters. **A value is laid over what stands
at the end of a path**: two tables under one name are put together entry by entry, and anything else
gives way to what is laid over it. A path goes through tables by names and through lists by places;
where it meets something else, that gives way as well.

A name with points and brackets spells a path: `a.b[0]` is the first item of the list under `b` in
the table under `a`. A place with a minus is counted from the end of the list.
-/

namespace LeadRouting.Layer

/-! ## 1. Tables -/

/-- A table: values, each under a name. -/
abbrev Table := List (String × Json)

/-- The entries of a table; anything else has none. -/
def entriesOf : Json → Table
  | .record fields => fields
  | _ => []

/-- The items of a list; anything else has none. -/
def itemsOf : Json → List Json
  | .list items => items
  | _ => []

/-- What stands under a name of a table, or null. -/
def under (name : String) (root : Json) : Json :=
  (Json.lookup? (Text.lower name) (entriesOf root)).getD .null

mutual

/-- The table with a value laid over what stands under a name. -/
def assign (name : String) : Json → Json → Json
  | .record incoming, root =>
    let key := Text.lower name
    let target := (Json.lookup? key (entriesOf root)).getD (.record [])
    .record (Json.insertField key (overlay incoming target) (entriesOf root))
  | v, root => .record (Json.insertField (Text.lower name) v (entriesOf root))

/-- The table with the entries of another one laid over it. -/
def overlay : Table → Json → Json
  | [], root => root
  | (k, v) :: rest, root => overlay rest (assign k v root)

end

/-! ## 2. Lists -/

/-- The list filled up with nulls, at the end or in front, until it has an item at a place, and the
number of items in front of that one. -/
def reach (i : Int) (items : List Json) : List Json × Nat :=
  if 0 ≤ i then (items ++ List.replicate (i.toNat + 1 - items.length) .null, i.toNat)
  else
    let missing := i.natAbs - items.length
    (List.replicate missing .null ++ items, items.length - i.natAbs)

/-- The list with the item at a place changed. -/
def changeItem (i : Int) (f : Json → Json) (items : List Json) : List Json :=
  let (filled, n) := reach i items
  filled.modify n f

/-! ## 3. Paths -/

/-- A step of a path. -/
inductive Step where
  | name (s : String)
  | place (i : Int)
  deriving DecidableEq

/-- The value with another one laid over what stands at the end of a path. -/
def assignAt : List Step → Json → Json → Json
  | [], v, _ => v
  | [.name s], v, root => assign s v root
  | .name s :: path, v, root =>
    .record (Json.insertField (Text.lower s) (assignAt path v (under s root)) (entriesOf root))
  | .place i :: path, v, root => .list (changeItem i (assignAt path v) (itemsOf root))

/-- A character of a name in a path. -/
def isNameChar (c : Char) : Bool := c.isAlphanum || c = '_' || c = '-' || c = ' '

/-- A blank beside a place. -/
def isPlaceBlank (c : Char) : Bool := c = ' ' || c = '\t'

/-- The place that stands in front of a closing bracket, and what is behind the bracket. -/
def place? (cs : List Char) : Option (Int × List Char) :=
  let cs := cs.dropWhile isPlaceBlank
  let (minus, cs) := match cs with
    | '-' :: rest => (true, rest)
    | rest => (false, rest)
  match Plain.digits? 10 (cs.takeWhile Char.isDigit),
      (cs.dropWhile Char.isDigit).dropWhile isPlaceBlank with
  | some n, ']' :: rest =>
    let i : Int := if minus then -n else n
    if Plain.fitsSigned i then some (i, rest) else none
  | _, _ => none

/-- The steps behind the first name of a path. -/
def steps? : Nat → List Char → Option (List Step)
  | _, [] => some []
  | n + 1, '.' :: cs =>
    let name := cs.takeWhile isNameChar
    if name.isEmpty then none
    else (steps? n (cs.dropWhile isNameChar)).map (.name (String.ofList name) :: ·)
  | n + 1, '[' :: cs =>
    (place? cs).bind fun (i, rest) => (steps? n rest).map (.place i :: ·)
  | _, _ => none

/-- The path that a name spells; a name that spells none is the whole path. -/
def pathOf (name : String) : List Step :=
  let cs := name.toList
  let first := cs.takeWhile isNameChar
  match steps? cs.length (cs.dropWhile isNameChar) with
  | some path => if first.isEmpty then [.name name] else .name (String.ofList first) :: path
  | none => [.name name]

/-- The table with every entry of another one laid over it, each name of which is a path. -/
def apply (root : Json) (entries : Table) : Json :=
  entries.foldl (fun root (name, v) => assignAt (pathOf name) v root) root

end LeadRouting.Layer
