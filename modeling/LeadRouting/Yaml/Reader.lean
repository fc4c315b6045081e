import LeadRouting.Document.Basic
import LeadRouting.Yaml.Scanner

/-!
# Indented documents

The tokens of a text are put together to lists and records. A part that is left out, such as the
value after a colon at the end of a line, is an unquoted scalar without characters. A name is a
scalar; a record with a list or a record for a name is broken.

**A text is read exactly if it holds one document at most**, and a text without one reads as the
scalar without characters. What lies deeper than `depthLimit` lists and records is broken.
-/

namespace LeadRouting.Yaml

/-- A part that is left out. -/
def nothing : Document := .plain ""

/-- The key that a document is; a list or a record is none. -/
def key? : Document → Option Key
  | .plain raw => some (.plain raw)
  | .scalar (.text s) => some (.text s)
  | _ => none

/-- The list of some parts. -/
def listOf (items : List Document) : Document := .list .named items

/-- The record of some entries, each with a document for its name. -/
def recordOf (entries : List (Document × Document)) : Document :=
  .ofEntries .named (entries.map fun (k, d) => (key? k, d))

/-! ## 1. What may be left out -/

/-- The tokens in front of which an entry of a list is left out. -/
def endsItem : List Token → Bool
  | .item :: _ => true
  | .blockEnd :: _ => true
  | _ => false

/-- The tokens in front of which an entry of a list without a column of its own is left out. -/
def endsLooseItem : List Token → Bool
  | .item :: _ => true
  | .key :: _ => true
  | .value :: _ => true
  | .blockEnd :: _ => true
  | _ => false

/-- The tokens in front of which a name or a value is left out. -/
def endsField : List Token → Bool
  | .key :: _ => true
  | .value :: _ => true
  | .blockEnd :: _ => true
  | _ => false

/-- The tokens in front of which a name between brackets is left out. -/
def endsFlowKey (close : Token) : List Token → Bool
  | .value :: _ => true
  | .separator :: _ => true
  | t :: _ => t = close
  | [] => false

/-- The tokens in front of which a value between brackets is left out. -/
def endsFlowValue (close : Token) : List Token → Bool
  | .separator :: _ => true
  | t :: _ => t = close
  | [] => false

/-! ## 2. Lists and records -/

/-- The tokens behind the comma in front of an entry; the first entry has none. -/
def afterSeparator? (first : Bool) (ts : List Token) : Option (List Token) :=
  if first then some ts
  else
    match ts with
    | .separator :: rest => some rest
    | _ => none

mutual

/-- A part of a document. A list may stand in the column of the record around it where `loose` says
so, and only a `block` may hold parts that are told by columns. -/
def node (block loose : Bool) : Nat → List Token → Option (Document × List Token)
  | 0, _ => none
  | n + 1, ts =>
    match ts with
    | .scalar true s :: rest => some (.scalar (.text s), rest)
    | .scalar false s :: rest => some (.plain s, rest)
    | .flowListStart :: rest => (flowItems true n rest).map fun (xs, r) => (listOf xs, r)
    | .flowRecordStart :: rest => (flowEntries true n rest).map fun (xs, r) => (recordOf xs, r)
    | .listStart :: rest =>
      if block then (items n rest).map fun (xs, r) => (listOf xs, r) else none
    | .recordStart :: rest =>
      if block then (entries n rest).map fun (xs, r) => (recordOf xs, r) else none
    | .item :: _ =>
      if loose then (looseItems n ts).map fun (xs, r) => (listOf xs, r) else none
    | _ => none

/-- The entries of a list. -/
def items : Nat → List Token → Option (List Document × List Token)
  | 0, _ => none
  | n + 1, .item :: rest => do
    let (d, rest) ← if endsItem rest then some (nothing, rest) else node true false n rest
    let (ds, rest) ← items n rest
    return (d :: ds, rest)
  | _ + 1, .blockEnd :: rest => some ([], rest)
  | _ + 1, _ => none

/-- The entries of a list in the column of the record around it. -/
def looseItems : Nat → List Token → Option (List Document × List Token)
  | 0, _ => none
  | n + 1, .item :: rest => do
    let (d, rest) ← if endsLooseItem rest then some (nothing, rest) else node true false n rest
    let (ds, rest) ← looseItems n rest
    return (d :: ds, rest)
  | _ + 1, rest => some ([], rest)

/-- The entries of a record. -/
def entries : Nat → List Token → Option (List (Document × Document) × List Token)
  | 0, _ => none
  | n + 1, .key :: rest => do
    let (k, rest) ← if endsField rest then some (nothing, rest) else node true true n rest
    let (d, rest) ← match rest with
      | .value :: rest => if endsField rest then some (nothing, rest) else node true true n rest
      | _ => some (nothing, rest)
    let (es, rest) ← entries n rest
    return ((k, d) :: es, rest)
  | _ + 1, .blockEnd :: rest => some ([], rest)
  | _ + 1, _ => none

/-- The value after a name between brackets, if there is a colon. -/
def flowValue (close : Token) : Nat → List Token → Option (Document × List Token)
  | 0, _ => none
  | n + 1, .value :: rest =>
    if endsFlowValue close rest then some (nothing, rest) else node false false n rest
  | _ + 1, rest => some (nothing, rest)

/-- The entries of a list between brackets; an entry may be a record of one name. -/
def flowItems (first : Bool) : Nat → List Token → Option (List Document × List Token)
  | 0, _ => none
  | _ + 1, .flowListEnd :: rest => some ([], rest)
  | n + 1, ts => do
    match ← afterSeparator? first ts with
    | .flowListEnd :: rest => return ([], rest)
    | .key :: rest =>
      let (k, rest) ← if endsFlowKey .flowListEnd rest then some (nothing, rest.drop 1)
        else node false false n rest
      let (d, rest) ← flowValue .flowListEnd n rest
      let (ds, rest) ← flowItems false n rest
      return (recordOf [(k, d)] :: ds, rest)
    | ts =>
      let (d, rest) ← node false false n ts
      let (ds, rest) ← flowItems false n rest
      return (d :: ds, rest)

/-- The entries of a record between braces; an entry may be a name alone. -/
def flowEntries (first : Bool) :
    Nat → List Token → Option (List (Document × Document) × List Token)
  | 0, _ => none
  | _ + 1, .flowRecordEnd :: rest => some ([], rest)
  | n + 1, ts => do
    match ← afterSeparator? first ts with
    | .flowRecordEnd :: rest => return ([], rest)
    | .key :: rest =>
      let (k, rest) ← if endsFlowKey .flowRecordEnd rest then some (nothing, rest)
        else node false false n rest
      let (d, rest) ← flowValue .flowRecordEnd n rest
      let (es, rest) ← flowEntries false n rest
      return ((k, d) :: es, rest)
    | ts =>
      let (k, rest) ← node false false n ts
      let (es, rest) ← flowEntries false n rest
      return ((k, nothing) :: es, rest)

end

/-! ## 3. Documents -/

/-- The body of a document, which may be left out. -/
def body (fuel : Nat) (ts : List Token) : Option (Document × List Token) :=
  match ts with
  | [] => some (nothing, [])
  | .documentStart :: _ => some (nothing, ts)
  | .documentEnd :: _ => some (nothing, ts)
  | _ => node true false fuel ts

/-- The tokens without the ends of documents in front. -/
def dropEnds : List Token → List Token
  | .documentEnd :: rest => dropEnds rest
  | ts => ts

/-- The document of a list of tokens; there is one at most. -/
def ofTokens? (ts : List Token) : Option Document := do
  let fuel := 2 * ts.length + 2
  let (d, rest) ← match ts with
    | .documentStart :: rest => body fuel rest
    | .documentEnd :: _ => none
    | ts => body fuel ts
  if (dropEnds rest).isEmpty then some d else none

/-- The greatest number of lists and records inside one another. -/
def depthLimit : Nat := 128

/-- The document of a text. -/
def read? (s : String) : Option Document :=
  ((tokens? s).bind ofTokens?).map (Document.cutAt depthLimit)

end LeadRouting.Yaml
