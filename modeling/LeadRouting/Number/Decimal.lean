import LeadRouting.Number.Order

/-!
# Decimal numerals

How a text reads as a value. A numeral is an optional sign and then one of

* digits with at most one point among them, at least one digit on one side of it, and an optional
  exponent (`5`, `5.`, `.5`, `1e3`, `2.5E-4`);
* `inf`, `infinity` or `nan` in any case.

Blanks are not part of a numeral. **The value is the representable one nearest to the numeral**,
of two equally near ones the even one, and an infinity beyond the range.
-/

namespace LeadRouting.Number

/-- A numeral taken apart. -/
inductive Numeral where
  /-- `mantissa · 10 ^ exponent`. -/
  | decimal (negative : Bool) (mantissa : Nat) (exponent : Int)
  | infinite (negative : Bool)
  | notANumber
  deriving DecidableEq, Repr

/-! ## 1. Taking a text apart -/

/-- The value of a run of digits, the most significant first. -/
def ofDigits (ds : List Char) : Nat :=
  ds.foldl (fun n c => 10 * n + (c.toNat - '0'.toNat)) 0

/-- A leading sign and what follows it: `true` for a minus, `none` without a sign. -/
def splitSign : List Char → Option Bool × List Char
  | '+' :: r => (some false, r)
  | '-' :: r => (some true, r)
  | r => (none, r)

/-- A run of one or more digits after an optional sign, and nothing else. -/
def readInteger? (cs : List Char) : Option Int :=
  let (sign, ds) := splitSign cs
  if ds.isEmpty || !ds.all Char.isDigit then none
  else some (if sign = some true then -(ofDigits ds : Int) else (ofDigits ds : Int))

/-- The exponent part that may end a numeral: nothing, or a mark and a signed run of digits. -/
def readExponent? : List Char → Option Int
  | [] => some 0
  | c :: r => if c = 'e' || c = 'E' then readInteger? r else none

/-- Digits, point and exponent, without a sign. -/
def readUnsigned? (cs : List Char) : Option (Nat × Int) :=
  let whole := cs.takeWhile Char.isDigit
  let rest := cs.dropWhile Char.isDigit
  let (part, tail) := match rest with
    | '.' :: r => (r.takeWhile Char.isDigit, r.dropWhile Char.isDigit)
    | r => ([], r)
  if whole.isEmpty && part.isEmpty then none
  else (readExponent? tail).map fun e => (ofDigits (whole ++ part), e - part.length)

/-- The numeral a text is, if it is one. -/
def Numeral.read? (cs : List Char) : Option Numeral :=
  let (sign, rest) := splitSign cs
  let minus := sign = some true
  let word := String.ofList (rest.map Char.toLower)
  if word = "inf" || word = "infinity" then some (.infinite minus)
  else if word = "nan" then some .notANumber
  else (readUnsigned? rest).map fun (m, e) => .decimal minus m e

/-! ## 2. The value of a numeral -/

/-- The infinity. -/
def infinity : Float := Float.ofBits 0x7ff0000000000000

/-- The value that is not a number. -/
def nan : Float := Float.ofBits 0x7ff8000000000000

/-- The number of decimal digits of `n`; `0` has none. -/
def digitCount (n : Nat) : Nat := if n = 0 then 0 else (Nat.toDigits 10 n).length

/-- The value nearest to `mantissa · 10 ^ exponent`. A numeral far outside the range of values is
    settled by its number of digits, before any power is computed. -/
def nearest (mantissa : Nat) (exponent : Int) : Float :=
  let size := digitCount mantissa + exponent
  if mantissa = 0 || size < -330 then 0.0
  else if 310 < size then infinity
  else Float.ofScientific mantissa (exponent < 0) exponent.natAbs

/-- The value of a numeral. -/
def Numeral.toFloat : Numeral → Float
  | .decimal false m e => nearest m e
  | .decimal true m e => -(nearest m e)
  | .infinite false => infinity
  | .infinite true => -infinity
  | .notANumber => nan

/-- The value a text reads as, if it is a numeral. -/
def read? (s : String) : Option Float :=
  (Numeral.read? s.toList).map Numeral.toFloat

/-- The value a text reads as, if it is the numeral of a finite value. -/
def readFinite? (s : String) : Option Float :=
  (read? s).filter finite

end LeadRouting.Number
