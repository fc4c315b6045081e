import LeadRouting.Json.Basic
import LeadRouting.Number.Decimal

/-!
# Numbers in documents

A number is an optional minus, digits without a needless zero in front, optionally a point with
digits after it, and optionally an exponent. Without point and exponent it is a whole number as long
as it fits into 64 bits, with a sign or without one; the number `-0` and everything else is a float.

A float is read in two steps, each of which may round: **its leading digits, as far as they fit into
64 bits, become a value, and one power of ten scales it**. A `Literal` has the form of a number; if
it is beyond the range of values it has no value.
-/

namespace LeadRouting.Json

open LeadRouting.Number

/-! ## 1. The digits of a number -/

/-- The least number that does not fit into 64 bits. -/
def significandBound : Nat := UInt64.size

/-- Digits appended to a number as long as it stays below the bound; the first one that does not fit
    ends it. The second part counts the digits taken. -/
def absorb : Nat → List Char → Nat × Nat
  | n, [] => (n, 0)
  | n, c :: rest =>
    let m := 10 * n + (c.toNat - '0'.toNat)
    if m < significandBound then
      let (k, taken) := absorb m rest
      (k, taken + 1)
    else (n, 0)

/-- A power of ten. -/
def power (k : Nat) : Float := Float.ofScientific 1 false k

/-- A value divided by `10 ^ k`, in steps of at most `10 ^ 308`; the steps end at zero. -/
def divideByPower : Nat → Float → Nat → Float
  | 0, x, _ => x
  | fuel + 1, x, k =>
    if k ≤ 308 then x / power k
    else if Number.same x 0.0 then x
    else divideByPower fuel (x / power 308) (k - 308)

/-- The value of a significand times a power of ten, if it is within the range. -/
def scale? (significand : Nat) (exponent : Int) : Option Float :=
  let x := significand.toUInt64.toFloat
  if exponent < 0 then some (divideByPower 4 x exponent.natAbs)
  else if exponent ≤ 308 then
    let y := x * power exponent.toNat
    if finite y then some y else none
  else if significand = 0 then some x
  else none

/-! ## 2. The number of a word -/

/-- Digits without a needless zero in front. -/
def wholeDigits (ds : List Char) : Bool :=
  match ds with
  | [] => false
  | '0' :: _ :: _ => false
  | _ => ds.all Char.isDigit

/-- A whole number, or the float that stands for it if it does not fit. -/
def wholeNumber? (minus : Bool) (ds : List Char) : Option Scalar :=
  let (n, taken) := absorb 0 ds
  if taken < ds.length then
    (scale? n (ds.length - taken)).map fun x => .float (if minus then -x else x)
  else if !minus then some (.int n)
  else if n = 0 || -(n : Int) < Int64.minValue.toInt then some (.float (-n.toUInt64.toFloat))
  else some (.int (-n))

/-- A number with a point or an exponent. -/
def scaledNumber? (minus : Bool) (whole part : List Char) (exponent : Int) : Option Scalar :=
  let (n, taken) := absorb 0 whole
  let (m, more) := absorb n part
  (scale? m (exponent + (whole.length - taken) - more)).map fun x =>
    .float (if minus then -x else x)

/-- What a word with the form of a number is made of. -/
structure Literal where
  minus : Bool
  whole : List Char
  /-- The digits behind the point and the exponent, if there is a point or an exponent. -/
  scaled : Option (List Char × Int)

/-- The number, if it is within the range of values. -/
def Literal.value? (n : Literal) : Option Scalar :=
  match n.scaled with
  | none => wholeNumber? n.minus n.whole
  | some (part, exponent) => scaledNumber? n.minus n.whole part exponent

/-- The parts of a word, if it has the form of a number. -/
def literal? (word : List Char) : Option Literal :=
  let (minus, rest) := match word with
    | '-' :: r => (true, r)
    | r => (false, r)
  let whole := rest.takeWhile Char.isDigit
  let tail := rest.dropWhile Char.isDigit
  if !wholeDigits whole then none
  else
    match tail with
    | [] => some ⟨minus, whole, none⟩
    | '.' :: r =>
      let part := r.takeWhile Char.isDigit
      if part.isEmpty then none
      else (readExponent? (r.dropWhile Char.isDigit)).map fun e => ⟨minus, whole, some (part, e)⟩
    | _ => (readExponent? tail).map fun e => ⟨minus, whole, some ([], e)⟩

end LeadRouting.Json
