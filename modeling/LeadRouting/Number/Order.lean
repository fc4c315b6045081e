/-!
# How two measured values compare

Weights, fits, prices and scores are `Float`s. This file reads a `Float` as a place on the integer
line, so that every comparison of the library is a comparison of two integers:

* `absBits` is the distance from zero, counted in representable values;
* `place` is that distance with its sign, so **the two zeros share one place**, and `place?` gives
  a value that is not a number no place at all (`lt`, `le`, `same` are false of it);
* `rank` is the place in the order that leaves no two different values equal: the negative zero
  stands right below the positive one.

`le` is what a floor or a bound asks, `rank` is what sorting asks; they differ only on the zeros.
-/

namespace LeadRouting.Number

/-! ## 1. Places -/

/-- The bit pattern of the negative zero; the patterns of all values with a sign lie from it on. -/
def signBit : Nat := 0x8000000000000000

/-- The distance of `x` from zero, counted in representable values. -/
def absBits (x : Float) : Nat := x.toBits.toNat % signBit

/-- True of every value with the sign bit set, the negative zero included. -/
def negative (x : Float) : Bool := signBit ≤ x.toBits.toNat

/-- The distance of the infinities from zero; what lies beyond is not a number. -/
def infinityBits : Nat := 0x7ff0000000000000

/-- True of the value that is not a number. -/
def notANumber (x : Float) : Bool := infinityBits < absBits x

/-- True of a value that is neither infinite nor not a number. -/
def finite (x : Float) : Bool := absBits x < infinityBits

/-- The place of `x` on the line; the two zeros share place `0`. -/
def place (x : Float) : Int :=
  if negative x then -(absBits x : Int) else (absBits x : Int)

/-- The place of `x`, if `x` is a number. -/
def place? (x : Float) : Option Int :=
  if notANumber x then none else some (place x)

/-! ## 2. Comparisons -/

/-- `x` lies below `y`; false as soon as one of them is not a number. -/
def lt (x y : Float) : Bool :=
  match place? x, place? y with
  | some a, some b => decide (a < b)
  | _, _ => false

/-- `x` lies at or below `y`; false as soon as one of them is not a number. -/
def le (x y : Float) : Bool :=
  match place? x, place? y with
  | some a, some b => decide (a ≤ b)
  | _, _ => false

/-- `x` and `y` are the same number; a value that is not a number is the same as nothing. -/
def same (x y : Float) : Bool :=
  match place? x, place? y with
  | some a, some b => decide (a = b)
  | _, _ => false

/-- `x` lies in the closed unit interval. -/
def inUnit (x : Float) : Bool := le 0.0 x && le x 1.0

/-- `x`, moved to the nearer end if it lies outside the interval from `lo` to `hi`. -/
def clamp (lo hi x : Float) : Float :=
  if lt x lo then lo else if lt hi x then hi else x

/-- The distance of `x` from zero, as a value. -/
def abs (x : Float) : Float := if negative x then -x else x

/-! ## 3. The order in which scores are sorted -/

/-- The place of `x` in the order that tells any two values apart. -/
def rank (x : Float) : Int :=
  if negative x then -(absBits x : Int) - 1 else (absBits x : Int)

theorem le_eq_true_iff (x y : Float) :
    le x y = true ↔ ∃ a b, place? x = some a ∧ place? y = some b ∧ a ≤ b := by
  unfold le
  cases place? x <;> cases place? y <;> simp

/-- **A higher rank is never at a lower place**: sorting by rank sorts by place. -/
theorem place_le_of_rank_le {x y : Float} (h : rank x ≤ rank y) : place x ≤ place y := by
  unfold rank at h
  unfold place
  split at h <;> split at h
  all_goals simp_all
  all_goals omega

end LeadRouting.Number
