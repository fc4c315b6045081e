import LeadRouting.Json.Reader
import LeadRouting.Settings.Basic
import LeadRouting.Settings.Table
import LeadRouting.Yaml.Reader
import LeadRouting.Yaml.Strict

/-!
# Settings in layers

Settings come from several sources, each of which is a table, and a later table goes over an earlier
one. A source is a text with columns, a text with braces or the variables of the environment; in the
name of a variable `__` stands for a point. **What is written in the tables has a kind of its own**,
but a field of another kind may still read it.

A text with columns decides its scalars in its own way: `null` and the truth values are spelled in
small letters only, and every numeral of a float counts. Names are decided as well, so that `1` and
`0x1` are the same name, and no name may stand twice in a record.
-/

namespace LeadRouting.Layer

open LeadRouting.Number

/-! ## 1. Scalars -/

/-- A whole number that fits into 64 bits, or the float next to it. -/
def clampInt (n : Int) : Scalar :=
  if Plain.fitsSigned n then .int n else .float (Float.ofInt n)

/-- A whole number of 64 bits with a sign at will. -/
def integer? (base : Nat) (cs : List Char) : Option Int :=
  let n? := match splitSign cs with
    | (some true, ds) => (Plain.digits? base ds).map fun n => -(n : Int)
    | (_, ds) => (Plain.digits? base ds).map fun n => (n : Int)
  n?.filter Plain.fitsSigned

/-- The whole number behind a mark of its base or a plus. -/
def markedInteger? : List Char → Option Int
  | '0' :: 'x' :: ds => integer? 16 ds
  | '0' :: 'o' :: ds => integer? 8 ds
  | '+' :: ds => integer? 10 ds
  | _ => none

/-- The spellings of infinities and of what is no number, none of which may stand in a table. -/
def isSpecialFloat (raw : String) : Bool :=
  let unsigned := match raw.toList with
    | '+' :: rest => String.ofList rest
    | '-' :: rest => String.ofList rest
    | _ => raw
  unsigned = ".inf" || unsigned = ".Inf" || unsigned = ".INF" || raw = ".nan" || raw = ".NAN"

/-- What an unquoted scalar is. -/
inductive Reading where
  | value (s : Scalar)
  /-- An infinity, or what is no number, in a spelling of its own. -/
  | special

/-- The reading of an unquoted scalar. -/
def readingOf (raw : String) : Reading :=
  let cs := raw.toList
  if raw = "" || raw = "~" || raw = "null" then .value .null
  else if raw = "true" then .value (.bool true)
  else if raw = "false" then .value (.bool false)
  else if isSpecialFloat raw then .special
  else
    match (markedInteger? cs).or (integer? 10 cs), read? raw with
    | some n, _ => .value (.int n)
    | none, some x => .value (.float x)
    | none, none => .value (.text raw)

/-- What the text of a variable stands for. -/
def ofVariable (s : String) : Json :=
  let w := Text.lower s
  if w = "true" then .bool true
  else if w = "false" then .bool false
  else
    match integer? 10 s.toList, read? s with
    | some n, _ => .int n
    | none, some x => .float x
    | none, none => .text s

/-! ## 2. Texts with columns -/

/-- A name as it is decided. -/
structure Name where
  /-- It is a text by itself. -/
  isText : Bool
  spelling : String
  deriving DecidableEq

/-- The name that a key is; null is none. -/
def nameOf? : Key → Option Name
  | .text s => some ⟨true, s⟩
  | .place _ => none
  | .plain raw =>
    match readingOf raw with
    | .value .null => none
    | .value (.text s) => some ⟨true, s⟩
    | .value (.int n) => some ⟨false, toString n⟩
    | _ => some ⟨false, raw⟩

/-- No name stands twice. -/
def distinctNames : List (Name × Json) → Bool
  | [] => true
  | (k, _) :: rest => !(rest.any fun (l, _) => k = l) && distinctNames rest

/-- The table of some entries; nothing if a name stands twice. -/
def tableOf? (entries : List (Name × Json)) : Option Json :=
  if distinctNames entries then
    some (.record (Json.sortFields (entries.map fun (k, v) => (k.spelling, v))))
  else none

mutual

/-- A document with columns as a value; nothing if a part of it may not stand in a table. -/
def ofDocument? : Document → Option Json
  | .plain raw =>
    match readingOf raw with
    | .value s => some (.scalar s)
    | .special => none
  | .scalar s => some (.scalar s)
  | .lenient s => some (.scalar s)
  | .list _ items => (ofDocuments? items).map Json.list
  | .record _ entries => (ofEntries? entries).bind tableOf?
  | .broken => none

/-- The documents of a list as values. -/
def ofDocuments? : List Document → Option (List Json)
  | [] => some []
  | d :: rest => (ofDocument? d).bind fun v => (ofDocuments? rest).map (v :: ·)

/-- The entries of a record as values. -/
def ofEntries? : List (Key × Document) → Option (List (Name × Json))
  | [] => some []
  | (k, d) :: rest => do return (← nameOf? k, ← ofDocument? d) :: (← ofEntries? rest)

end

/-- The entries of a value that is a table. -/
def table? : Json → Option Table
  | .record fields => some fields
  | _ => none

/-- The table of a text with columns; a text without a document is an empty one. -/
def ofYamlText? (s : String) : Option Table :=
  (Yaml.Strict.tokens? s).bind fun ts =>
    match Yaml.dropEnds ts with
    | [] => some []
    | ts => ((Yaml.ofTokens? ts).bind ofDocument?).bind table?

/-! ## 3. Texts with braces -/

mutual

/-- A value whose whole numbers fit into 64 bits. -/
def clampInts : Json → Json
  | .scalar (.int n) => .scalar (clampInt n)
  | .scalar s => .scalar s
  | .list items => .list (clampList items)
  | .record fields => .record (clampFields fields)

/-- The values of a list, each with such numbers. -/
def clampList : List Json → List Json
  | [] => []
  | v :: rest => clampInts v :: clampList rest

/-- The entries of a record, each with such numbers. -/
def clampFields : List (String × Json) → List (String × Json)
  | [] => []
  | (k, v) :: rest => (k, clampInts v) :: clampFields rest

end

/-- The table of a text with braces. -/
def ofJsonText? (s : String) : Option Table := (Json.read? s).bind fun v => table? (clampInts v)

/-! ## 4. Variables -/

/-- What the names of the variables of settings start with. -/
def variableLead : List Char := "lead_router__".toList

/-- Two underlines become a point. -/
def pointed : List Char → List Char
  | '_' :: '_' :: rest => '.' :: pointed rest
  | c :: rest => c :: pointed rest
  | [] => []

/-- The table of the variables. -/
def ofVariables (vars : List (String × String)) : Table :=
  vars.filterMap fun (name, s) =>
    let key := Text.lowerChars name.toList
    if variableLead.isPrefixOf key then
      some (String.ofList (pointed (key.drop variableLead.length)), ofVariable s)
    else none

end LeadRouting.Layer
