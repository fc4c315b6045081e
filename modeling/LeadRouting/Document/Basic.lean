import LeadRouting.Document.Plain
import LeadRouting.Json.Basic

/-!
# Documents

A document is what a reader hands to the fields of a type. All sources give the same lists and
records and differ in how much their scalars leave open:

* `scalar` is decided: a scalar of JSON, or a quoted one;
* `plain` is an unquoted text that each field reads in its own way;
* `lenient` is a decided scalar of a settings table, which gives way to a field of another kind
  (a number fits a text).

They differ in what a list or a record may stand for as well (`Manner`). A record keeps its entries
in the order of the source, and a name may stand twice.

**A part may be `broken`**: it has the form of a value but is none, such as a number beyond the
range of values or half of a surrogate pair. Whoever looks at a broken part fails; whoever passes
over it does not.
-/

namespace LeadRouting

/-- What the lists and the records of a source may stand for. -/
inductive Manner where
  /-- A list may give the fields of a record by position. -/
  | positional
  /-- Nothing but lists and records. -/
  | named
  /-- As `positional`; besides, a record without entries may stand for nothing, and the place of a
      field or of a word for its name. -/
  | buffered
  /-- As `positional`, with more items than fields; besides, anything may stand for nothing, and
      the case of a word does not count. -/
  | lenient
  deriving DecidableEq, Repr

/-- What names an entry of a record. -/
inductive Key where
  | text (s : String)
  /-- An unquoted text. -/
  | plain (raw : String)
  /-- The place of a field or of a word, counted from zero. -/
  | place (n : Nat)
  deriving DecidableEq, Repr

/-- A document before its parts have got a type. -/
inductive Document where
  | scalar (s : Scalar)
  | plain (raw : String)
  | lenient (s : Scalar)
  | list (m : Manner) (items : List Document)
  | record (m : Manner) (entries : List (Key × Document))
  | broken

instance : Inhabited Document := ⟨.scalar .null⟩

namespace Key

/-- The name that a key is; a place is none. -/
def name? : Key → Option String
  | .text s => some s
  | .plain raw => some raw
  | .place _ => none

/-- The key with what is open decided: a whole number without a minus is a place, and a key that
spells no text otherwise is none. -/
def settle? : Key → Option Key
  | .plain raw =>
    match Plain.unsigned? raw, Plain.settle raw with
    | some n, _ => some (.place n.toNat)
    | none, some (.text s) => some (.text s)
    | none, _ => none
  | k => some k

end Key

namespace Document

/-! ## 1. From values and back -/

mutual

/-- A value as a document; everything in it is decided. -/
def ofJson : Json → Document
  | .scalar s => .scalar s
  | .list items => .list .positional (ofJsonList items)
  | .record fields => .record .positional (ofJsonFields fields)

/-- The values of a list as documents. -/
def ofJsonList : List Json → List Document
  | [] => []
  | v :: rest => ofJson v :: ofJsonList rest

/-- The entries of a record as documents. -/
def ofJsonFields : List (String × Json) → List (Key × Document)
  | [] => []
  | (k, v) :: rest => (.text k, ofJson v) :: ofJsonFields rest

end

/-- A decided scalar as a value. -/
def valueOf : Scalar → Json
  | .float x => Json.ofFloat x
  | s => .scalar s

mutual

/-- The document as a value in normal form; nothing if a part of it is broken, an unquoted number in
it is too large or a key in it is no name. -/
def toJson? : Document → Option Json
  | .scalar s => some (valueOf s)
  | .plain raw => (Plain.settle raw).map valueOf
  | .lenient s => some (valueOf s)
  | .list _ items => (toJsonList? items).map Json.list
  | .record _ entries => (toJsonFields? entries).map fun fs => .record (Json.sortFields fs)
  | .broken => none

/-- The documents of a list as values. -/
def toJsonList? : List Document → Option (List Json)
  | [] => some []
  | d :: rest => (toJson? d).bind fun v => (toJsonList? rest).map (v :: ·)

/-- The entries of a record as values. -/
def toJsonFields? : List (Key × Document) → Option (List (String × Json))
  | [] => some []
  | (k, d) :: rest => do return (← k.name?, ← toJson? d) :: (← toJsonFields? rest)

end

/-- The record of some entries; it is broken if one of them has no key. -/
def ofEntries (m : Manner) (entries : List (Option Key × Document)) : Document :=
  match entries.mapM fun (e : Option Key × Document) => e.1.map fun k => (k, e.2) with
  | some keyed => .record m keyed
  | none => .broken

/-! ## 2. Deciding what is open -/

mutual

/-- The document with all that is open decided; nothing if a part of it is broken, an unquoted
number in it is too large or a key in it names nothing. -/
def settle? : Document → Option Document
  | .plain raw => (Plain.settle raw).map Document.scalar
  | .list _ items => (settleList? items).map (Document.list .buffered)
  | .record _ entries => (settleEntries? entries).map (Document.record .buffered)
  | .broken => none
  | d => some d

/-- A list with every unquoted scalar decided. -/
def settleList? : List Document → Option (List Document)
  | [] => some []
  | d :: rest => (settle? d).bind fun v => (settleList? rest).map (v :: ·)

/-- A record with every unquoted scalar decided. -/
def settleEntries? : List (Key × Document) → Option (List (Key × Document))
  | [] => some []
  | (k, d) :: rest => do return (← k.settle?, ← settle? d) :: (← settleEntries? rest)

end

mutual

/-- The document with everything in it made lenient. -/
def soften : Document → Document
  | .scalar s => .lenient s
  | .list _ items => .list .lenient (softenList items)
  | .record _ entries => .record .lenient (softenEntries entries)
  | d => d

/-- A list with everything in it made lenient. -/
def softenList : List Document → List Document
  | [] => []
  | d :: rest => soften d :: softenList rest

/-- A record with everything in it made lenient. -/
def softenEntries : List (Key × Document) → List (Key × Document)
  | [] => []
  | (k, d) :: rest => (k, soften d) :: softenEntries rest

end

/-! ## 3. Depth -/

mutual

/-- The document with the lists and records that stand too deep broken: no more than `n` of them are
left inside one another. -/
def cutAt : Nat → Document → Document
  | 0, .list _ _ => .broken
  | 0, .record _ _ => .broken
  | n + 1, .list m items => .list m (cutListAt n items)
  | n + 1, .record m entries => .record m (cutEntriesAt n entries)
  | _, d => d

/-- A list with what stands too deep broken. -/
def cutListAt : Nat → List Document → List Document
  | _, [] => []
  | n, d :: rest => cutAt n d :: cutListAt n rest

/-- A record with what stands too deep broken. -/
def cutEntriesAt : Nat → List (Key × Document) → List (Key × Document)
  | _, [] => []
  | n, (k, d) :: rest => (k, cutAt n d) :: cutEntriesAt n rest

end

end Document

end LeadRouting
