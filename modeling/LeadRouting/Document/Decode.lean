import LeadRouting.Document.Basic
import LeadRouting.Number.Layout
import LeadRouting.Text.Lowercase
import LeadRouting.Text.Quoted

/-!
# Typed reading of documents

A `Decoder` reads a document as a value of a type or says why it cannot (`DecodeError`). Records are
read by `Fields`, which are put together field by field:

* where the manner of the source allows it, a record may also be given as the list of its fields in
  order; the missing ones at the end take their defaults;
* **the error that is reported is the one that stands first in the document**: an unknown name, a
  name given twice and a value of the wrong kind count where they stand, a missing field behind
  everything else, and of several missing fields the first one declared;
* a choice between several kinds of record is made by a tag (`tagged`), which is read before all
  else.
-/

namespace LeadRouting

/-! ## 1. What can go wrong -/

/-- What was found in place of something else. -/
inductive Found where
  | scalar (s : Scalar)
  | list
  | record
  deriving DecidableEq

/-- Why a document does not fit a type. -/
inductive DecodeError where
  | unknownField (name : String)
  | missingField (name : String)
  | duplicateField (name : String)
  | unknownVariant (name : String)
  | wrongKind (found : Found)
  | outOfRange (n : Int)
  | wrongLength (n : Nat)
  | unknownOperator (text : String)
  | badTimeOfDay (text : String)
  /-- A text that is no time, zone or day, or a value of a shape that no message describes. -/
  | unreadable
  deriving DecidableEq

/-- What was found, in words. -/
def Found.describe : Found → String
  | .scalar .null => "null"
  | .scalar (.bool b) => "boolean `" ++ toString b ++ "`"
  | .scalar (.int n) => "integer `" ++ toString n ++ "`"
  | .scalar (.float x) => "floating point `" ++ Number.Layout.document.write x ++ "`"
  | .scalar (.text s) => "string " ++ Text.quoted s
  | .list => "sequence"
  | .record => "map"

/-- The error in words, if there are any for it. -/
def DecodeError.message? : DecodeError → Option String
  | .unknownField name => some ("unknown field `" ++ name ++ "`")
  | .missingField name => some ("missing field `" ++ name ++ "`")
  | .duplicateField name => some ("duplicate field `" ++ name ++ "`")
  | .unknownVariant name => some ("unknown variant `" ++ name ++ "`")
  | .wrongKind found => some ("invalid type: " ++ found.describe)
  | .outOfRange n => some ("invalid value: integer `" ++ toString n ++ "`")
  | .wrongLength n => some ("invalid length " ++ toString n)
  | .unknownOperator s => some ("Unknown operator: " ++ s)
  | .badTimeOfDay s => some ("Invalid time of day: " ++ s)
  | .unreadable => none

/-- Reads a document as a value of a type. -/
abbrev Decoder (α : Type) := Document → Except DecodeError α

/-- What a document is found to be where something else was wanted. -/
def Document.found? : Document → Option Found
  | .scalar s => some (.scalar s)
  | .plain raw => some (.scalar (.text raw))
  | .lenient s => some (.scalar s)
  | .list _ _ => some .list
  | .record _ _ => some .record
  | .broken => none

namespace Decoder

/-- The document is not of the kind wanted. -/
def wrongKind {α : Type} (d : Document) : Except DecodeError α :=
  .error (d.found?.elim .unreadable .wrongKind)

/-- A partial reading, a failure of which is put down to the kind of the document. -/
def orWrongKind {α : Type} (d : Document) : Option α → Except DecodeError α
  | some a => .ok a
  | none => wrongKind d

/-! ## 2. Scalars -/

/-- The text of a lenient scalar. -/
def lenientText? : Scalar → Option String
  | .text s => some s
  | .bool b => some (toString b)
  | .int n => some (toString n)
  | .float x => some (Number.Layout.message.write x)
  | .null => none

/-- The truth value of a lenient scalar. -/
def lenientBool? : Scalar → Option Bool
  | .bool b => some b
  | .int n => some (n != 0)
  | .float x => some (!Number.same x 0.0)
  | .text s =>
    let w := Text.lower s
    if w = "1" || w = "true" || w = "on" || w = "yes" then some true
    else if w = "0" || w = "false" || w = "off" || w = "no" then some false
    else none
  | .null => none

/-- The number of a lenient scalar. -/
def lenientFloat? : Scalar → Option Float
  | .float x => some x
  | .int n => some (Float.ofInt n)
  | .bool b => some (if b then 1.0 else 0.0)
  | .text s =>
    let w := Text.lower s
    if w = "true" || w = "on" || w = "yes" then some 1.0
    else if w = "false" || w = "off" || w = "no" then some 0.0
    else Number.read? s
  | .null => none

/-- A text; an unquoted scalar is its own characters. -/
def text : Decoder String
  | .scalar (.text s) => .ok s
  | .plain raw => .ok raw
  | .lenient s => orWrongKind (.lenient s) (lenientText? s)
  | d => wrongKind d

/-- A truth value. -/
def bool : Decoder Bool
  | .scalar (.bool b) => .ok b
  | .plain raw => orWrongKind (.plain raw) (Plain.bool? raw)
  | .lenient s => orWrongKind (.lenient s) (lenientBool? s)
  | d => wrongKind d

/-- A float; a whole number is taken too. -/
def float : Decoder Float
  | .scalar (.float x) => .ok x
  | .scalar (.int n) => .ok (Float.ofInt n)
  | .plain raw => orWrongKind (.plain raw) (Plain.float? raw)
  | .lenient s => orWrongKind (.lenient s) (lenientFloat? s)
  | d => wrongKind d

/-- A whole number in a range; a float is refused, even a whole one. -/
def within (lo hi : Int) (n : Int) : Except DecodeError Int :=
  if lo ≤ n && n ≤ hi then .ok n else .error (.outOfRange n)

/-- A whole number from `lo` to `hi`, `lo` being negative. -/
def integer (lo hi : Int) : Decoder Int
  | .scalar (.int n) => within lo hi n
  | .plain raw => do within lo hi (← orWrongKind (.plain raw) (Plain.signed? raw))
  | d => wrongKind d

/-- A whole number from zero to `hi`. -/
def natural (hi : Nat) : Decoder Nat
  | .scalar (.int n) => (within 0 hi n).map Int.toNat
  | .plain raw => do
    return (← within 0 hi (← orWrongKind (.plain raw) (Plain.unsigned? raw))).toNat
  | d => wrongKind d

/-- A whole number of 32 bits without a sign. -/
def uint32 : Decoder UInt32 := fun d => (natural (UInt32.size - 1) d).map UInt32.ofNat

/-- A whole number of 32 bits with a sign. -/
def int32 : Decoder Int32 := fun d =>
  (integer Int32.minValue.toInt Int32.maxValue.toInt d).map Int32.ofInt

/-- A whole number of 64 bits with a sign. -/
def int64 : Decoder Int64 := fun d =>
  (integer Int64.minValue.toInt Int64.maxValue.toInt d).map Int64.ofInt

/-- Any value. -/
def value : Decoder Json := fun d => match d.toJson? with
  | some v => .ok v
  | none => .error .unreadable

/-- A value that may be absent: null in any spelling stands for nothing. -/
def optional {α : Type} (f : Decoder α) : Decoder (Option α)
  | .scalar .null => .ok none
  | .lenient .null => .ok none
  | .plain raw => if Plain.isNull raw then .ok none else (f (.plain raw)).map some
  | d => (f d).map some

/-- What stands under a word may be taken for nothing. -/
def isNothing : Manner → Document → Bool
  | .positional, .scalar .null => true
  | .buffered, .scalar .null => true
  | .buffered, .record _ [] => true
  | .lenient, _ => true
  | _, _ => false

/-- The value of a word. -/
def pick {α : Type} (words : List (String × α)) (m : Manner) (s : String) : Except DecodeError α :=
  match words.find? fun (w, _) => if m = .lenient then Text.lower w = Text.lower s else w = s with
  | some (_, a) => .ok a
  | none => .error (.unknownVariant s)

/-- The value of the word that a key names. -/
def pickKey {α : Type} (words : List (String × α)) (m : Manner) : Key → Except DecodeError α
  | .text s => pick words m s
  | .plain raw => pick words m raw
  | .place n =>
    match words[n]? with
    | some (_, a) => .ok a
    | none => .error .unreadable

/-- One of several words. It may also be given as the only name of a record, over nothing. -/
def word {α : Type} (words : List (String × α)) : Decoder α
  | .scalar (.text s) => pick words .positional s
  | .plain raw => pick words .named raw
  | .lenient (.text s) => pick words .lenient s
  | .record m [(k, d)] => do
    let a ← pickKey words m k
    if isNothing m d then return a else wrongKind d
  | .record _ _ => .error .unreadable
  | d => wrongKind d

/-- One of several values, each under its name. -/
def named {α : Type} (all : List α) (name : α → String) : Decoder α :=
  word (all.map fun a => (name a, a))

/-- A value that is written as a text of its own; a text that is none has an error of its own. -/
def spelledAs {α : Type} (read : String → Option α) (refuse : String → DecodeError) : Decoder α :=
  fun d => do
    let s ← text d
    match read s with
    | some a => return a
    | none => throw (refuse s)

/-! ## 3. Lists and free records -/

/-- A list; an unquoted scalar without characters is an empty one. -/
def list {α : Type} (f : Decoder α) : Decoder (List α)
  | .list _ items => items.mapM f
  | .plain "" => .ok []
  | d => wrongKind d

/-- A record with free names, in normal form. -/
def table : Decoder (List (String × Json))
  | .record _ entries =>
    match Document.toJsonFields? entries with
    | some fields => .ok (Json.sortFields fields)
    | none => .error .unreadable
  | .plain "" => .ok []
  | d => wrongKind d

end Decoder

/-! ## 4. Records with declared fields -/

/-- A result, or an error with the place in the record where it arises. -/
abbrev Located (α : Type) := Except (Nat × DecodeError) α

namespace Located

/-- Both results, or the error that stands first; at the same place the one on the left. -/
def both {α β : Type} : Located α → Located β → Located (α × β)
  | .ok a, .ok b => .ok (a, b)
  | .ok _, .error e => .error e
  | .error e, .ok _ => .error e
  | .error (i, e), .error (j, f) => .error (if j < i then (j, f) else (i, e))

/-- A reading at some place of the record. -/
def at_ {α : Type} (i : Nat) (r : Except DecodeError α) : Located α := r.mapError fun e => (i, e)

/-- The result without the place. -/
def forget {α : Type} (r : Located α) : Except DecodeError α := r.mapError Prod.snd

end Located

/-- The declared fields of a record. -/
structure Fields (α : Type) where
  /-- The accepted spellings of every field, each list headed by the field's name. -/
  spellings : List (List String)
  ofEntries : List (String × Document) → Located α
  /-- Reads the fields by position, the first of the items standing at the given place. -/
  ofItems : Nat → List Document → Located α

namespace Fields

/-- Every accepted spelling of every field. -/
def names {α : Type} (f : Fields α) : List String := f.spellings.flatten

/-- The number of fields. -/
def width {α : Type} (f : Fields α) : Nat := f.spellings.length

/-- The name that a key gives to its entry. A place behind the last field is no field's name. -/
def nameOf {α : Type} (f : Fields α) : Key → String
  | .text s => s
  | .plain raw => raw
  | .place n => (f.spellings[n]?.bind List.head?).getD ""

/-- The places and values of the entries under one of the names. -/
def occurrences (names : List String) (entries : List (String × Document)) :
    List (Nat × Document) :=
  entries.zipIdx.filterMap fun ((k, d), i) => if names.contains k then some (i, d) else none

/-- One field with several spellings, the first of which is its name. -/
def spelled {α : Type} (name : String) (others : List String) (f : Decoder α)
    (absent : Option α) : Fields α where
  spellings := [name :: others]
  ofEntries entries :=
    match occurrences (name :: others) entries with
    | [] =>
      match absent with
      | some a => .ok a
      | none => .error (entries.length, .missingField name)
    | [(i, d)] => Located.at_ i (f d)
    | (i, d) :: (j, _) :: _ =>
      (Located.both (Located.at_ i (f d))
        (.error (j, .duplicateField name) : Located Unit)).map Prod.fst
  ofItems i items :=
    match items with
    | d :: _ => Located.at_ i (f d)
    | [] =>
      match absent with
      | some a => .ok a
      | none => .error (i, .wrongLength i)

/-- A field that has to be given. -/
def required {α : Type} (name : String) (f : Decoder α) : Fields α := spelled name [] f none

/-- A field with a default. -/
def withDefault {α : Type} (name : String) (f : Decoder α) (a : α) : Fields α :=
  spelled name [] f (some a)

/-- A field that may be left out or be null. -/
def optional {α : Type} (name : String) (f : Decoder α) : Fields (Option α) :=
  spelled name [] (Decoder.optional f) (some none)

/-- A record without fields. -/
def none {α : Type} (a : α) : Fields α := ⟨[], fun _ => .ok a, fun _ _ => .ok a⟩

/-- The fields of the first record followed by those of the second one. -/
def both {α β : Type} (f : Fields α) (g : Fields β) : Fields (α × β) where
  spellings := f.spellings ++ g.spellings
  ofEntries entries := Located.both (f.ofEntries entries) (g.ofEntries entries)
  ofItems i items := Located.both (f.ofItems i items) (g.ofItems (i + f.width) (items.drop f.width))

/-- The same fields, put together in another way. -/
def map {α β : Type} (h : α → β) (f : Fields α) : Fields β where
  spellings := f.spellings
  ofEntries entries := (f.ofEntries entries).map h
  ofItems i items := (f.ofItems i items).map h

instance : Functor Fields := ⟨fun h f => f.map h, fun a f => f.map fun _ => a⟩

instance : Seq Fields := ⟨fun f g => (f.both (g ())).map fun (h, a) => h a⟩

/-- The first name that no field has, as an error where it stands. -/
def unknownName (names : List String) (entries : List (String × Document)) : Located Unit :=
  match entries.zipIdx.find? fun ((k, _), _) => !names.contains k with
  | some ((k, _), i) => .error (i, .unknownField k)
  | .none => .ok ()

/-- The fields by position. Items beyond the last field are too many, unless the manner is lenient,
and where everything has a name a list is no record. -/
def fromItems {α : Type} (f : Fields α) (m : Manner) (items : List Document) :
    Except DecodeError α := do
  if m = .named then Decoder.wrongKind (.list m items)
  else
    let a ← Located.forget (f.ofItems 0 items)
    if m ≠ .lenient && f.width < items.length then throw (.wrongLength items.length)
    return a

/-- The fields by name; a `closed` record has no others. -/
def fromEntries {α : Type} (f : Fields α) (closed : Bool) (entries : List (Key × Document)) :
    Except DecodeError α :=
  let named := entries.map fun (k, d) => (f.nameOf k, d)
  let strange := if closed then unknownName f.names named else .ok ()
  Located.forget ((Located.both strange (f.ofEntries named)).map Prod.snd)

/-- The record as a decoder. -/
def decoder {α : Type} (f : Fields α) (closed : Bool) : Decoder α
  | .record _ entries => f.fromEntries closed entries
  | .list m items => f.fromItems m items
  | .plain "" => f.fromEntries closed []
  | d => Decoder.wrongKind d

end Fields

/-! ## 5. Records of several kinds -/

namespace Decoder

/-- The fields of the kind that a tag names. -/
def kindOf {α : Type} (kinds : List (String × Fields α)) (tag : Document) :
    Except DecodeError (Fields α) := do
  let name ← text tag
  match Json.lookup? name kinds with
  | some f => return f
  | none => throw (.unknownVariant name)

/-- A decided form of what stands beside a tag. -/
def settled {α : Type} : Option α → Except DecodeError α
  | some a => .ok a
  | none => .error .unreadable

/-- A record whose kind stands under a tag, or first in the list of its parts. -/
def tagged {α : Type} (tag : String) (kinds : List (String × Fields α)) (closed : Bool) : Decoder α
  | .record _ entries => do
    match entries.filter fun (k, _) => k.name? = some tag with
    | [] => throw (.missingField tag)
    | (_, d) :: more =>
      let f ← kindOf kinds d
      unless more.isEmpty do throw (.duplicateField tag)
      let others := entries.filter fun (k, _) => k.name? ≠ some tag
      f.fromEntries closed (← settled (Document.settleEntries? others))
  | .list _ [] => .error (.missingField tag)
  | .list _ (d :: items) => do
    let f ← kindOf kinds d
    f.fromItems .buffered (← settled (Document.settleList? items))
  | d => wrongKind d

end Decoder

end LeadRouting
