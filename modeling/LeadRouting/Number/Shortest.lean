import LeadRouting.Number.Order

/-!
# The shortest decimal of a value

A finite value is `m · 2 ^ q` exactly (`Binary`). Every real number in an interval around it reads
back as that value (`Binary.covers`), and **the shortest decimal is the one with the fewest digits
in the interval, of two such the nearer one**; where both are equally near, a `Tie` says which. For
each number of digits only the two neighbours of the value on that decimal grid can be nearest, so
they are the ones tried. All of it is arithmetic on natural numbers.
-/

namespace LeadRouting.Number

/-! ## 1. Exact values -/

/-- A value from zero upwards, as a multiple of a power of two. -/
structure Binary where
  significand : Nat
  exponent : Int
  /-- The next lower value is only half as far away as the next higher one. -/
  lowerClose : Bool
  deriving DecidableEq, Repr

/-- The leading bit of a significand of full length. -/
def leadingBit : Nat := 0x10000000000000

/-- The exact distance of a finite value from zero. -/
def Binary.ofFloat (x : Float) : Binary :=
  let e : Nat := absBits x / leadingBit
  let f : Nat := absBits x % leadingBit
  if e = 0 then ⟨f, -1074, false⟩ else ⟨leadingBit + f, (e : Int) - 1075, f = 0 && 1 < e⟩

/-- The power of two that a fraction is multiplied by above and below the line. -/
def scaleOf (q : Int) : Nat × Nat := (Nat.pow 2 q.toNat, Nat.pow 2 (-q).toNat)

/-- The value as a fraction. -/
def Binary.fraction (b : Binary) : Nat × Nat :=
  let (up, down) := scaleOf b.exponent
  (b.significand * up, down)

/-! ## 2. Decimals -/

/-- A decimal `digits · 10 ^ exponent`. -/
structure Decimal where
  digits : Nat
  exponent : Int
  deriving DecidableEq, Repr

/-- The decimal as a fraction. -/
def Decimal.fraction (d : Decimal) : Nat × Nat :=
  (d.digits * Nat.pow 10 d.exponent.toNat, Nat.pow 10 (-d.exponent).toNat)

/-- Whether a decimal reads back as the value: it lies no further from it than half the way to the
    next value on its side, the half way itself included exactly for an even significand. -/
def Binary.covers (b : Binary) (d : Decimal) : Bool :=
  let (up, down) := scaleOf (b.exponent - 2)
  let (n, k) := d.fraction
  -- The decimal, the ends of the interval and the value share one denominator from here on.
  let point := n * down
  let unit := up * k
  let low := (4 * b.significand - (if b.lowerClose then 1 else 2)) * unit
  let high := (4 * b.significand + 2) * unit
  if b.significand % 2 = 0 then low ≤ point && point ≤ high else low < point && point < high

/-- The distance between the value and a decimal, as a fraction over a denominator that is the same
    for all decimals with one exponent. -/
def Binary.distance (b : Binary) (d : Decimal) : Nat :=
  let (n, k) := b.fraction
  let (p, l) := d.fraction
  (n * l - p * k) + (p * k - n * l)

/-! ## 3. Search -/

/-- Which of two neighbours is taken that are equally near. -/
inductive Tie where
  | even | up
  deriving DecidableEq, Repr

/-- The lower neighbour is taken, `digits` being its digits. -/
def Tie.keepsLower (t : Tie) (digits : Nat) : Bool := t = .even && digits % 2 = 0

/-- How many times a fraction below one has to be taken ten times until it reaches one. -/
def leadingZeros : Nat → Nat → Nat → Nat
  | 0, _, _ => 0
  | fuel + 1, n, k => if n < k then leadingZeros fuel (10 * n) k + 1 else 0

/-- The exponent of the first digit of a positive fraction. -/
def leadingExponent (n k : Nat) : Int :=
  if n < k then -(leadingZeros 400 n k : Int) else ((Nat.toDigits 10 (n / k)).length : Int) - 1

/-- The decimal on the grid `10 ^ e` at or below the fraction. -/
def floorAt (n k : Nat) (e : Int) : Decimal :=
  ⟨n * Nat.pow 10 (-e).toNat / (k * Nat.pow 10 e.toNat), e⟩

/-- The neighbour of the value on the grid `10 ^ e` that reads back as it, of two the nearer one. -/
def Binary.onGrid? (b : Binary) (t : Tie) (e : Int) : Option Decimal :=
  let (n, k) := b.fraction
  let below := floorAt n k e
  let above : Decimal := ⟨below.digits + 1, e⟩
  match b.covers below, b.covers above with
  | true, true =>
    let near := b.distance below
    let far := b.distance above
    some (if near < far || (near = far && t.keepsLower below.digits) then below else above)
  | true, false => some below
  | false, true => some above
  | false, false => none

/-- The first grid with a decimal that reads back, from the coarsest one down. -/
def Binary.search (b : Binary) (t : Tie) : Nat → Int → Decimal
  | 0, e => let (n, k) := b.fraction; floorAt n k e
  | fuel + 1, e =>
    match b.onGrid? t e with
    | some d => d
    | none => b.search t fuel (e - 1)

/-- The same decimal without zeros at the end. -/
def stripZeros : Nat → Decimal → Decimal
  | 0, d => d
  | fuel + 1, d =>
    if d.digits ≠ 0 && d.digits % 10 = 0 then stripZeros fuel ⟨d.digits / 10, d.exponent + 1⟩ else d

/-- **The shortest decimal that reads back as the distance of a finite value from zero.** -/
def shortest (t : Tie) (x : Float) : Decimal :=
  let b := Binary.ofFloat x
  if b.significand = 0 then ⟨0, 0⟩
  else
    let (n, k) := b.fraction
    stripZeros 20 (b.search t 20 (leadingExponent n k))

end LeadRouting.Number
