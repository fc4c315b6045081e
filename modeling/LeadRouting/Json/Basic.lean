import LeadRouting.Number.Order

/-!
# Values of documents

A `Json` value is a scalar, a list of values or a record of named values. Whole numbers and floats
are different scalars: `1` and `1.0` are not equal, though they may compare as numbers.

A record is kept in the order in which it was written. **In `normal` form its names ascend by code
point and stand once each, the last value written under a name being the one that counts.**
-/

namespace LeadRouting

/-! ## 1. Types -/

/-- A value with no parts. -/
inductive Scalar where
  | null
  | bool (b : Bool)
  | int (n : Int)
  | float (x : Float)
  | text (s : String)
  deriving DecidableEq

/-- A value of a document. -/
inductive Json where
  | scalar (s : Scalar)
  | list (items : List Json)
  | record (fields : List (String × Json))

instance : Inhabited Json := ⟨.scalar .null⟩

namespace Json

/-- The null value. -/
@[match_pattern] abbrev null : Json := .scalar .null

/-- A truth value. -/
@[match_pattern] abbrev bool (b : Bool) : Json := .scalar (.bool b)

/-- A whole number. -/
@[match_pattern] abbrev int (n : Int) : Json := .scalar (.int n)

/-- A float. -/
@[match_pattern] abbrev float (x : Float) : Json := .scalar (.float x)

/-- A text. -/
@[match_pattern] abbrev text (s : String) : Json := .scalar (.text s)

/-- A float as a value: there is no value for a float without a numeral, so it is null. -/
def ofFloat (x : Float) : Json := if Number.finite x then float x else null

/-- A value that may be absent, null standing for its absence. -/
def ofOption {α : Type} (f : α → Json) : Option α → Json
  | none => null
  | some a => f a

/-- A list of values. -/
def ofList {α : Type} (f : α → Json) (xs : List α) : Json := .list (xs.map f)

/-! ## 2. Records -/

/-- A sorted record with one more entry; an entry of the same name gives way to it. -/
def insertField {α : Type} (k : String) (v : α) : List (String × α) → List (String × α)
  | [] => [(k, v)]
  | (k', v') :: rest =>
    if k = k' then (k, v) :: rest
    else if k < k' then (k, v) :: (k', v') :: rest
    else (k', v') :: insertField k v rest

/-- The entries in ascending order of their names, the last one of each name. -/
def sortFields {α : Type} (fields : List (String × α)) : List (String × α) :=
  fields.foldl (fun acc (k, v) => insertField k v acc) []

/-- The value under a name. -/
def lookup? {α : Type} (name : String) (fields : List (String × α)) : Option α :=
  (fields.find? fun (k, _) => k = name).map Prod.snd

/-- The value under a name of a record; nothing for a value that is no record. -/
def field? (name : String) : Json → Option Json
  | .record fields => lookup? name fields
  | _ => none

mutual

/-- The value with every record in it sorted. -/
def normal : Json → Json
  | .scalar s => .scalar s
  | .list items => .list (normalList items)
  | .record fields => .record (sortFields (normalFields fields))

/-- The values of a list, each in normal form. -/
def normalList : List Json → List Json
  | [] => []
  | v :: rest => normal v :: normalList rest

/-- The entries of a record, each value in normal form. -/
def normalFields : List (String × Json) → List (String × Json)
  | [] => []
  | (k, v) :: rest => (k, normal v) :: normalFields rest

end

/-! ## 3. Equality of values -/

/-- Equal scalars: floats by their place on the line, all else as written. -/
def sameScalar : Scalar → Scalar → Bool
  | .float x, .float y => Number.same x y
  | a, b => a = b

mutual

/-- Equal values, the floats in them compared by their place on the line. -/
def same : Json → Json → Bool
  | .scalar a, .scalar b => sameScalar a b
  | .list xs, .list ys => sameList xs ys
  | .record xs, .record ys => sameFields xs ys
  | _, _ => false

/-- Equal lists, value by value. -/
def sameList : List Json → List Json → Bool
  | [], [] => true
  | x :: xs, y :: ys => same x y && sameList xs ys
  | _, _ => false

/-- Equal sorted records, entry by entry. -/
def sameFields : List (String × Json) → List (String × Json) → Bool
  | [], [] => true
  | (k, x) :: xs, (l, y) :: ys => k = l && same x y && sameFields xs ys
  | _, _ => false

end

@[simp] theorem lookup?_nil {α : Type} (name : String) :
    lookup? name ([] : List (String × α)) = none := rfl

end Json

end LeadRouting
