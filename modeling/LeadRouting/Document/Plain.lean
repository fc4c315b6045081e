import LeadRouting.Json.Basic
import LeadRouting.Number.Decimal

/-!
# Unquoted scalars

What the characters of an unquoted scalar can stand for. A field that knows what it wants asks one
of the five readings; where no field says so, `settle` tries them in a fixed order: **null, truth
value, whole number, float, and a text last**. Quoted scalars are texts and never come here.

* null is the empty scalar, `~`, `null`, `Null` or `NULL`;
* a truth value is `true` or `false`, small, capitalised or in capitals;
* a whole number is decimal, or has `0x`, `0o` or `0b` in front of its digits; several digits with a
  zero in front are none;
* a float is a numeral of a finite value, or `.inf` or `.nan` in the spellings below.
-/

namespace LeadRouting.Plain

open LeadRouting.Number

/-! ## 1. Null and truth values -/

/-- The spellings of null, the empty one included. -/
def isNull (raw : String) : Bool :=
  raw = "" || raw = "~" || raw = "null" || raw = "Null" || raw = "NULL"

/-- The truth value that a scalar spells. -/
def bool? (raw : String) : Option Bool :=
  if raw = "true" || raw = "True" || raw = "TRUE" then some true
  else if raw = "false" || raw = "False" || raw = "FALSE" then some false
  else none

/-! ## 2. Whole numbers -/

/-- The value of a digit to some base. -/
def digit? (base : Nat) (c : Char) : Option Nat :=
  let n := c.toNat
  let d :=
    if c.isDigit then n - '0'.toNat
    else if 'a' ≤ c && c ≤ 'z' then n - 'a'.toNat + 10
    else if 'A' ≤ c && c ≤ 'Z' then n - 'A'.toNat + 10
    else base
  if d < base then some d else none

/-- One or more digits to some base. -/
def digits? (base : Nat) (cs : List Char) : Option Nat :=
  if cs.isEmpty then none
  else cs.foldlM (fun n c => (digit? base c).map (base * n + ·)) 0

/-- A zero in front of further decimal digits, behind a sign or not. -/
def paddedWithZero (cs : List Char) : Bool :=
  match (splitSign cs).2 with
  | '0' :: c :: rest => (c :: rest).all Char.isDigit
  | _ => false

/-- The size of a whole number without its sign. -/
def magnitude? : List Char → Option Nat
  | '0' :: 'x' :: ds => digits? 16 ds
  | '0' :: 'o' :: ds => digits? 8 ds
  | '0' :: 'b' :: ds => digits? 2 ds
  | ds => digits? 10 ds

/-- The whole number that a scalar spells, of whatever size. -/
def whole? (raw : String) : Option Int :=
  let cs := raw.toList
  if paddedWithZero cs then none
  else
    match splitSign cs with
    | (some true, ds) => (magnitude? ds).map fun n => -(n : Int)
    | (_, ds) => (magnitude? ds).map fun n => (n : Int)

/-- The number fits into 64 bits with a sign. -/
def fitsSigned (n : Int) : Bool := Int64.minValue.toInt ≤ n && n ≤ Int64.maxValue.toInt

/-- A whole number that fits into 64 bits with a sign. -/
def signed? (raw : String) : Option Int := (whole? raw).filter fitsSigned

/-- A whole number without a minus that fits into 64 bits. -/
def unsigned? (raw : String) : Option Int :=
  if (splitSign raw.toList).1 = some true then none
  else (whole? raw).filter fun n => n < UInt64.size

/-! ## 3. Floats -/

/-- The float that a scalar spells. -/
def float? (raw : String) : Option Float :=
  if raw = ".nan" || raw = ".NaN" || raw = ".NAN" then some nan
  else if raw = "-.inf" || raw = "-.Inf" || raw = "-.INF" then some (-infinity)
  else
    let (sign, rest) := match raw.toList with
      | '+' :: r => (true, String.ofList r)
      | _ => (false, raw)
    if sign && (splitSign rest.toList).1.isSome then none
    else if rest = ".inf" || rest = ".Inf" || rest = ".INF" then some infinity
    else readFinite? rest

/-! ## 4. Where no field asks -/

/-- The number fits into 128 bits, with a sign or without one. -/
def fitsTwoWords (n : Int) : Bool := -(Nat.pow 2 127 : Int) ≤ n && n < (Nat.pow 2 128 : Int)

/-- What a scalar stands for by itself; nothing if it is a whole number of more than 64 bits. -/
def settle (raw : String) : Option Scalar :=
  if isNull raw then some .null
  else
    match bool? raw with
    | some b => some (.bool b)
    | none =>
      match (unsigned? raw).or (signed? raw) with
      | some n => some (.int n)
      | none =>
        if (whole? raw).any fitsTwoWords then none
        else if paddedWithZero raw.toList then some (.text raw)
        else
          match float? raw with
          | some x => some (.float x)
          | none => some (.text raw)

end LeadRouting.Plain
