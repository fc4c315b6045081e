import LeadRouting.Json.Printer
import LeadRouting.Lead.Context
import LeadRouting.Text.Alike

/-!
# Conditions on custom fields

A test compares a free field of the person with a value. Comparisons are loose: texts are compared
without regard to case and outer blanks, and **a text that spells a finite number counts as that
number beside a number**. Values that cannot be compared fail the test, whichever way it asks.

A field that is missing fails every operator but `absent`. A field that is null is there for
`present` and `absent` and fails every other operator.
-/

namespace LeadRouting

/-! ## 1. Operators -/

/-- How a field is compared with a value. -/
inductive Operator where
  | equals | notEquals
  | among | notAmong
  | above | atLeast | below | atMost
  | contains | lacks
  | present | absent
  deriving DecidableEq

namespace Operator

/-- Every operator. -/
def all : List Operator :=
  [.equals, .notEquals, .among, .notAmong, .above, .atLeast, .below, .atMost, .contains, .lacks,
    .present, .absent]

/-- The name of an operator in documents. -/
def name : Operator → String
  | .equals => "EQUALS"
  | .notEquals => "NOT_EQUALS"
  | .among => "IN"
  | .notAmong => "NOT_IN"
  | .above => "GT"
  | .atLeast => "GTE"
  | .below => "LT"
  | .atMost => "LTE"
  | .contains => "CONTAINS"
  | .lacks => "NOT_CONTAINS"
  | .present => "EXISTS"
  | .absent => "NOT_EXISTS"

/-- The operator that a text names, in any case of the letters and with blanks around it. -/
def ofName? (s : String) : Option Operator :=
  let w := Text.trim s
  all.find? fun op => Text.alikeLetters op.name w

/-- The operator compares two numbers. -/
def numeric (op : Operator) : Bool := op = .above || op = .atLeast || op = .below || op = .atMost

/-- The operator looks a field up in a list. -/
def takesList (op : Operator) : Bool := op = .among || op = .notAmong

/-- The operator asks whether a field is there. -/
def asksPresence (op : Operator) : Bool := op = .present || op = .absent

end Operator

/-! ## 2. Loose comparison -/

namespace Json

/-- The value is a number, whole or not. -/
def isNumber : Json → Bool
  | .int _ => true
  | .float _ => true
  | _ => false

/-- The finite number that a value stands for: a number, or a text that spells one. -/
def number? : Json → Option Float
  | .int n => some (Float.ofInt n) |>.filter Number.finite
  | .float x => some x |>.filter Number.finite
  | .text s => (Number.read? (Text.trim s)).filter Number.finite
  | _ => none

/-- The texts of the scalars other than null. -/
def scalarText? : Json → Option String
  | .text s => some s
  | .int n => some (writeScalar (.int n))
  | .float x => some (writeScalar (.float x))
  | .bool b => some (writeScalar (.bool b))
  | _ => none

/-- Both are numbers, or spell some, and the first stands in a relation to the second. -/
def compares (rel : Float → Float → Bool) (a b : Json) : Bool :=
  match a.number?, b.number? with
  | some x, some y => rel x y
  | _, _ => false

/-- Two values are loosely equal. -/
def looselyEqual (a b : Json) : Bool :=
  match a, b with
  | .text x, .text y => Text.alike x y
  | a, b => if a.isNumber || b.isNumber then compares Number.same a b else same a b

/-- Whether a value holds another one; nothing if it cannot be asked. -/
def holds? (a b : Json) : Option Bool :=
  match a with
  | .text s => b.scalarText?.map fun t =>
    Text.occursIn (Text.lowerChars (Text.trimChars t.toList)) (Text.lowerChars s.toList)
  | .list items => some (items.any fun item => looselyEqual item b)
  | _ => none

/-- Whether a value is loosely equal to an entry of a list; nothing if there is no list. -/
def memberOf? (a b : Json) : Option Bool :=
  match b with
  | .list items => some (items.any fun e => looselyEqual a e)
  | _ => none

end Json

namespace Operator

/-- The operator accepts a field that is there and not null. -/
def accepts (op : Operator) (a b : Json) : Bool :=
  match op with
  | .equals => Json.looselyEqual a b
  | .notEquals => !Json.looselyEqual a b
  | .among => Json.memberOf? a b = some true
  | .notAmong => Json.memberOf? a b = some false
  | .above => Json.compares (fun x y => Number.lt y x) a b
  | .atLeast => Json.compares (fun x y => Number.le y x) a b
  | .below => Json.compares Number.lt a b
  | .atMost => Json.compares Number.le a b
  | .contains => Json.holds? a b = some true
  | .lacks => Json.holds? a b = some false
  | .present => true
  | .absent => false

/-- The operator accepts a field, which may be missing. -/
def holds (op : Operator) (field : Option Json) (value : Json) : Bool :=
  match op, field with
  | .present, f => f.isSome
  | .absent, f => f.isNone
  | _, none => false
  | _, some .null => false
  | op, some a => op.accepts a value

end Operator

/-! ## 3. Tests -/

/-- A comparison of a field with a value. -/
structure FieldTest where
  key : String
  operator : Operator
  value : Json

namespace FieldTest

/-- The fields pass the test. -/
def passes (t : FieldTest) (fields : List (String × Json)) : Bool :=
  t.operator.holds (Json.lookup? t.key fields) t.value

/-- What a test that fails says. -/
def describe (t : FieldTest) : String :=
  if t.operator.asksPresence then t.key ++ " " ++ t.operator.name
  else t.key ++ " " ++ t.operator.name ++ " " ++ t.value.compact ++ " not satisfied"

/-- Why the tests fail, if one of them does: the first one tells. -/
def failure? (tests : List FieldTest) (fields : List (String × Json)) : Option String :=
  (tests.find? fun t => !t.passes fields).map describe

end FieldTest

/-! ## 4. As values -/

/-- Reads an operator. -/
def Operator.decode : Decoder Operator := .spelledAs Operator.ofName? .unknownOperator

/-- Reads a test. -/
def FieldTest.decode : Decoder FieldTest :=
  Fields.decoder
    (FieldTest.mk
      <$> .required "key" Decoder.text
      <*> .required "operator" Operator.decode
      <*> .withDefault "value" Decoder.value .null)
    true

/-- The test as a value. -/
def FieldTest.toJson (t : FieldTest) : Json := .record
  [("key", .text t.key), ("operator", .text t.operator.name), ("value", t.value)]

end LeadRouting
