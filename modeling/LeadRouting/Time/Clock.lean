import LeadRouting.Time.Calendar
import LeadRouting.Number.Decimal

/-!
# Times of day

A time of day is a second of the day and the nanoseconds past it. **A leap second is kept as second
59 with a thousand million nanoseconds or more**, so it comes after every other time of its minute
and before the next minute.

`TimeOfDay.read?` accepts `H:M` and `H:M:S`, each group of one or two digits and with blanks in
front of it at will. It is written as `HH:MM`.
-/

namespace LeadRouting

/-- The nanoseconds of a second. -/
def nanosPerSecond : Nat := 1000000000

/-- The seconds of a day. -/
def secondsPerDay : Nat := 86400

/-- A time of day. -/
structure TimeOfDay where
  seconds : Nat
  nanos : Nat
  seconds_lt : seconds < secondsPerDay
  deriving DecidableEq

namespace TimeOfDay

/-! ## 1. Order -/

/-- One time comes before the other. -/
def before (s t : TimeOfDay) : Bool :=
  s.seconds < t.seconds || (s.seconds = t.seconds && s.nanos < t.nanos)

theorem before_iff (s t : TimeOfDay) :
    before s t = true ↔ s.seconds < t.seconds ∨ s.seconds = t.seconds ∧ s.nanos < t.nanos := by
  simp [before]

theorem before_irrefl (t : TimeOfDay) : before t t = false := by simp [before]

/-- **Of two different times exactly one comes first.** -/
theorem eq_of_not_before {s t : TimeOfDay} (h : before s t = false) (h' : before t s = false) :
    s = t := by
  obtain ⟨a, b, _⟩ := s
  obtain ⟨c, d, _⟩ := t
  simp only [before, Bool.or_eq_false_iff, decide_eq_false_iff_not, Bool.and_eq_false_iff] at h h'
  have : a = c := by omega
  have : b = d := by omega
  subst a; subst b; rfl

/-! ## 2. Reading -/

/-- The time of an hour, a minute and a second, the second 60 being a leap second. -/
def ofClock? (hour minute second : Nat) : Option TimeOfDay :=
  if h : hour < 24 ∧ minute < 60 ∧ second ≤ 60 then
    if second = 60 then
      some ⟨3600 * hour + 60 * minute + 59, nanosPerSecond, by unfold secondsPerDay; omega⟩
    else
      some ⟨3600 * hour + 60 * minute + min second 59, 0, by unfold secondsPerDay; omega⟩
  else none

/-- The time with some more nanoseconds. -/
def addNanos (t : TimeOfDay) (n : Nat) : TimeOfDay := { t with nanos := t.nanos + n }

/-- Up to `width` digits in front, at least one, with the characters behind them. -/
def digitGroup? (width : Nat) (cs : List Char) : Option (Nat × List Char) :=
  let ds := (cs.take width).takeWhile Char.isDigit
  if ds.isEmpty then none else some (Number.ofDigits ds, cs.drop ds.length)

/-- One or two digits behind blanks. -/
def group? (cs : List Char) : Option (Nat × List Char) := digitGroup? 2 (Text.trimStart cs)

/-- The characters behind a colon. -/
def colon? : List Char → Option (List Char)
  | ':' :: rest => some rest
  | _ => none

/-- The time that characters without blanks around them spell. -/
def ofChars? (cs : List Char) : Option TimeOfDay := do
  let (hour, cs) ← group? cs
  let (minute, cs) ← group? (← colon? cs)
  if cs.isEmpty then ofClock? hour minute 0
  else
    let (second, cs) ← group? (← colon? cs)
    if cs.isEmpty then ofClock? hour minute second else none

/-- The time that a text spells. -/
def read? (s : String) : Option TimeOfDay := ofChars? (Text.trimChars s.toList)

/-! ## 3. Writing -/

/-- A number with at least `width` digits. -/
def padded (width n : Nat) : String :=
  let ds := toString n
  String.ofList (List.replicate (width - ds.length) '0') ++ ds

/-- The time as `HH:MM`. -/
def write (t : TimeOfDay) : String :=
  padded 2 (t.seconds / 3600) ++ ":" ++ padded 2 (t.seconds / 60 % 60)

end TimeOfDay

end LeadRouting
