import LeadRouting.Number.Shortest

/-!
# How values are written

Two layouts write the digits of `shortest`:

* `Layout.document` is the one of JSON documents: a point in every number, and an exponent for
  values below `10 ^ -5` or from `10 ^ 16` on. Of two decimals equally near it takes the even one;
* `Layout.message` is the one of messages to people: never an exponent, a point only where there is
  something after it. Of two decimals equally near it takes the upper one.

`writeFixed` writes a value with a fixed number of places, rounded from its exact value, a half to
the even neighbour.
-/

namespace LeadRouting.Number

/-! ## 1. Layouts -/

/-- The choices of a layout. -/
structure Layout where
  /-- The least exponent of the first digit that is written without an exponent, if there is one. -/
  least : Option Int
  /-- The greatest one, if there is one. -/
  greatest : Option Int
  /-- What follows the digits of a whole number. -/
  whole : String
  tie : Tie
  deriving DecidableEq, Repr

/-- A number in a document has a point or an exponent, and an exponent outside
    `10 ^ -5 ≤ x < 10 ^ 16`. -/
def Layout.document : Layout := ⟨some (-5), some 15, ".0", .even⟩

/-- A number in a message has no exponent, and a point only if a digit follows it. -/
def Layout.message : Layout := ⟨none, none, "", .up⟩

/-- `n` zeros. -/
def zeros (n : Nat) : String := String.ofList (List.replicate n '0')

/-- Digits around a point, the exponent of the first digit being `lead`. -/
def Layout.positional (l : Layout) (ds : String) (lead : Int) : String :=
  if lead < 0 then "0." ++ zeros ((-lead).toNat - 1) ++ ds
  else if ds.length ≤ lead.toNat + 1 then ds ++ zeros (lead.toNat + 1 - ds.length) ++ l.whole
  else
    let cs := ds.toList
    String.ofList (cs.take (lead.toNat + 1)) ++ "." ++ String.ofList (cs.drop (lead.toNat + 1))

/-- One digit, a point if more follow, and a signed exponent. -/
def scientific (ds : String) (lead : Int) : String :=
  let cs := ds.toList
  let rest := String.ofList (cs.drop 1)
  String.ofList (cs.take 1) ++ (if rest.isEmpty then "" else "." ++ rest) ++ "e"
    ++ (if lead < 0 then "-" else "+") ++ toString lead.natAbs

/-- The text of a decimal. -/
def Layout.writeDecimal (l : Layout) (d : Decimal) : String :=
  let ds := toString d.digits
  let lead : Int := ds.length - 1 + d.exponent
  if l.least.any (lead < ·) || l.greatest.any (· < lead) then scientific ds lead
  else l.positional ds lead

/-- The text of a value: a sign for every value with the sign bit, and words for the values that
    have no digits. -/
def Layout.write (l : Layout) (x : Float) : String :=
  if notANumber x then "NaN"
  else (if negative x then "-" else "") ++
    (if finite x then l.writeDecimal (shortest l.tie x) else "inf")

/-! ## 2. Fixed places -/

/-- `n / k` rounded to the nearest natural number, a half to the even neighbour. -/
def roundHalfEven (n k : Nat) : Nat :=
  let q := n / k
  let r := n % k
  if 2 * r < k then q else if k < 2 * r then q + 1 else if q % 2 = 0 then q else q + 1

/-- The text of a value with `places` digits after the point. -/
def writeFixed (places : Nat) (x : Float) : String :=
  if notANumber x then "NaN"
  else (if negative x then "-" else "") ++
    if finite x then
      let (n, k) := (Binary.ofFloat x).fraction
      let unit := Nat.pow 10 places
      let scaled := roundHalfEven (n * unit) k
      let part := toString (scaled % unit)
      toString (scaled / unit) ++ "." ++ zeros (places - part.length) ++ part
    else "inf"

end LeadRouting.Number
