import LeadRouting.Text.Alike

/-!
# Days, dates and weekdays

A day is a whole number, counted from 1970-01-01. `Date.day` counts the days up to a date and
`Date.ofDay` finds the date of a day; both follow the Gregorian calendar into the past and the
future without an end.

The calendar repeats every 400 years (`eraDays` days). Inside an era a year starts with March, so
**the leap day is the last day of its year** and the days before a month do not depend on it.
-/

namespace LeadRouting

/-! ## 1. Weekdays -/

/-- A day of the week. -/
inductive Weekday where
  | mon | tue | wed | thu | fri | sat | sun
  deriving DecidableEq

namespace Weekday

/-- The days of the week from Monday on. -/
def all : List Weekday := [.mon, .tue, .wed, .thu, .fri, .sat, .sun]

/-- The day before. -/
def pred : Weekday → Weekday
  | .mon => .sun
  | .tue => .mon
  | .wed => .tue
  | .thu => .wed
  | .fri => .thu
  | .sat => .fri
  | .sun => .sat

/-- The short name, as it is written. -/
def name : Weekday → String
  | .mon => "Mon"
  | .tue => "Tue"
  | .wed => "Wed"
  | .thu => "Thu"
  | .fri => "Fri"
  | .sat => "Sat"
  | .sun => "Sun"

/-- The full name. -/
def longName : Weekday → String
  | .mon => "Monday"
  | .tue => "Tuesday"
  | .wed => "Wednesday"
  | .thu => "Thursday"
  | .fri => "Friday"
  | .sat => "Saturday"
  | .sun => "Sunday"

/-- The day that a text names, by the short or the full name in any case of the letters. -/
def ofName? (s : String) : Option Weekday :=
  all.find? fun d => Text.alikeLetters d.name s || Text.alikeLetters d.longName s

/-- The weekday of a day; day `0` is a Thursday. -/
def ofDay (day : Int) : Weekday :=
  match (day + 3) % 7 with
  | 0 => .mon
  | 1 => .tue
  | 2 => .wed
  | 3 => .thu
  | 4 => .fri
  | 5 => .sat
  | _ => .sun

end Weekday

/-! ## 2. Dates -/

/-- A date of the calendar. -/
structure Date where
  year : Int
  month : Nat
  dayOfMonth : Nat
  deriving DecidableEq

namespace Date

/-- The days of an era of 400 years. -/
def eraDays : Int := 146097

/-- True of a year with a 29th of February. -/
def leapYear (year : Int) : Bool := year % 4 = 0 && (year % 100 ≠ 0 || year % 400 = 0)

/-- The number of days of a month. -/
def monthLength (year : Int) (month : Nat) : Nat :=
  if month = 2 then if leapYear year then 29 else 28
  else if month = 4 || month = 6 || month = 9 || month = 11 then 30
  else 31

/-- The date is one of the calendar. -/
def valid (d : Date) : Bool :=
  1 ≤ d.month && d.month ≤ 12 && 1 ≤ d.dayOfMonth && d.dayOfMonth ≤ monthLength d.year d.month

/-- The number of days from 1970-01-01 to the date. -/
def day (d : Date) : Int :=
  let y := if d.month ≤ 2 then d.year - 1 else d.year
  let monthFromMarch : Int := (d.month + 9) % 12
  let yearOfEra := y % 400
  let dayOfYear := (153 * monthFromMarch + 2) / 5 + d.dayOfMonth - 1
  let dayOfEra := yearOfEra * 365 + yearOfEra / 4 - yearOfEra / 100 + dayOfYear
  (y / 400) * eraDays + dayOfEra - 719468

/-- The date of a day. -/
def ofDay (day : Int) : Date :=
  let z := day + 719468
  let dayOfEra := z % eraDays
  let yearOfEra := (dayOfEra - dayOfEra / 1460 + dayOfEra / 36524 - dayOfEra / 146096) / 365
  let dayOfYear := dayOfEra - (365 * yearOfEra + yearOfEra / 4 - yearOfEra / 100)
  let monthFromMarch := (5 * dayOfYear + 2) / 153
  let month := if monthFromMarch < 10 then monthFromMarch + 3 else monthFromMarch - 9
  let year := yearOfEra + z / eraDays * 400
  { year := if month ≤ 2 then year + 1 else year
    month := month.toNat
    dayOfMonth := (dayOfYear - (153 * monthFromMarch + 2) / 5 + 1).toNat }

/-- The first Sunday on or after a day. -/
def sundayFrom (day : Int) : Int := day + (3 - day) % 7

/-- The `n`-th Sunday of a month, counted from zero. -/
def sundayOfMonth (year : Int) (month n : Nat) : Int := sundayFrom (day ⟨year, month, 1⟩) + 7 * n

/-- The last Sunday of a month. -/
def lastSundayOfMonth (year : Int) (month : Nat) : Int :=
  sundayFrom (day ⟨year, month, monthLength year month⟩ - 6)

end Date

end LeadRouting
