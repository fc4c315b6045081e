import LeadRouting.Time.Clock
import LeadRouting.Time.Zone

/-!
# Instants

An instant is a second, counted from 1970-01-01 in UTC, and the nanoseconds past it; a leap second
is kept as in a time of day. Seen from a zone it has a local day, a weekday and a time of day.

The reader takes a date, `T`, `t` or a blank, a time with a fraction at will, and an offset. It lets
blanks stand in front of a group of digits and lets a group have one digit only. Of a fraction the
first nine digits count. An offset is in hours and minutes, or `Z`, or `UTC` in any case.
-/

namespace LeadRouting

/-- A point in time. -/
structure Instant where
  seconds : Int
  nanos : Nat
  deriving DecidableEq

namespace Instant

variable [Zones]

/-! ## 1. Local time -/

/-- The seconds that the clocks of a zone show. -/
def localSeconds (t : Instant) (z : Zone) : Int := t.seconds + z.offset t.seconds

/-- The day that it is in a zone. -/
def localDay (t : Instant) (z : Zone) : Int := t.localSeconds z / secondsPerDay

/-- The weekday that it is in a zone. -/
def localWeekday (t : Instant) (z : Zone) : Weekday := Weekday.ofDay (t.localDay z)

/-- The time of day that it is in a zone. -/
def localTime (t : Instant) (z : Zone) : TimeOfDay where
  seconds := (t.localSeconds z % secondsPerDay).toNat
  nanos := t.nanos
  seconds_lt := by unfold secondsPerDay; omega

/-! ## 2. Reading -/

/-- The greatest and the least year. -/
def yearRange : Int × Int := (-262143, 262142)

/-- A year: four digits at most, or any number of them behind a sign. -/
def year? (cs : List Char) : Option (Int × List Char) :=
  match Text.trimStart cs with
  | '-' :: rest => (TimeOfDay.digitGroup? rest.length rest).map fun (n, r) => (-(n : Int), r)
  | '+' :: rest => (TimeOfDay.digitGroup? rest.length rest).map fun (n, r) => ((n : Int), r)
  | rest => (TimeOfDay.digitGroup? 4 rest).map fun (n, r) => ((n : Int), r)

/-- The characters behind a sign, with blanks in front of it at will. -/
def behind? (sign : Char) (cs : List Char) : Option (List Char) :=
  match Text.trimStart cs with
  | c :: rest => if c = sign then some rest else none
  | [] => none

/-- The nanoseconds of a fraction behind a point, if there is a point. -/
def fraction? : List Char → Option (Nat × List Char)
  | '.' :: rest =>
    let ds := (rest.take 9).takeWhile Char.isDigit
    if ds.isEmpty then none
    else some (Number.ofDigits ds * Nat.pow 10 (9 - ds.length), rest.dropWhile Char.isDigit)
  | cs => some (0, cs)

/-- A digit as a number. -/
def digit? (c : Char) : Option Nat := if c.isDigit then some (c.toNat - '0'.toNat) else none

/-- Two digits, the first of them below a bound. -/
def twoDigits? (bound : Nat) : List Char → Option (Nat × List Char)
  | a :: b :: rest => do
    let x ← digit? a
    let y ← digit? b
    if x < bound then some (10 * x + y, rest) else none
  | _ => none

/-- The seconds of a signed offset in hours and minutes. -/
def signedOffset? (sign : Int) (cs : List Char) : Option (Int × List Char) := do
  let (hours, cs) ← twoDigits? 10 cs
  let (minutes, cs) ← twoDigits? 6 (cs.dropWhile fun c => c = ':' || Text.isBlank c)
  if hours < 24 then some (sign * (3600 * hours + 60 * minutes), cs) else none

/-- The characters behind the name of UTC. -/
def behindUtc? : List Char → Option (List Char)
  | u :: t :: c :: rest =>
    if [u, t, c].map Char.toLower = ['u', 't', 'c'] then some rest else none
  | _ => none

/-- The seconds of an offset from UTC. -/
def offset? (cs : List Char) : Option (Int × List Char) :=
  match behindUtc? cs, cs with
  | some rest, _ => some (0, rest)
  | none, 'Z' :: rest => some (0, rest)
  | none, 'z' :: rest => some (0, rest)
  | none, '+' :: rest => signedOffset? 1 rest
  | none, '-' :: rest => signedOffset? (-1) rest
  | none, c :: rest => if c.toNat = 0x2212 then signedOffset? (-1) rest else none
  | none, [] => none

/-- The date in front of the characters. -/
def date? (cs : List Char) : Option (Date × List Char) := do
  let (year, cs) ← year? cs
  let (month, cs) ← TimeOfDay.group? (← behind? '-' cs)
  let (dayOfMonth, cs) ← TimeOfDay.group? (← behind? '-' cs)
  let date : Date := ⟨year, month, dayOfMonth⟩
  if date.valid && yearRange.1 ≤ year && year ≤ yearRange.2 then some (date, cs) else none

/-- The time in front of the characters. -/
def time? (cs : List Char) : Option (TimeOfDay × List Char) := do
  let (hour, cs) ← TimeOfDay.group? cs
  let (minute, cs) ← TimeOfDay.group? (← behind? ':' cs)
  let (second, cs) ← TimeOfDay.group? (← behind? ':' cs)
  let (nanos, cs) ← fraction? cs
  let t ← TimeOfDay.ofClock? hour minute second
  some (t.addNanos nanos, cs)

/-- The first character parts the date from the time. -/
def divided? : List Char → Option (List Char)
  | c :: rest => if c = 'T' || c = 't' || c = ' ' then some rest else none
  | [] => none

/-- The instant lies in the years that are kept. -/
def inRange (t : Instant) : Bool :=
  let year := (Date.ofDay (t.seconds / secondsPerDay)).year
  yearRange.1 ≤ year && year ≤ yearRange.2

/-- The instant that a text spells. -/
def read? (s : String) : Option Instant := do
  let (date, cs) ← date? s.toList
  let (time, cs) ← time? (← divided? cs)
  let (offset, cs) ← offset? (Text.trimStart cs)
  if (Text.trimStart cs).isEmpty then
    let t : Instant := ⟨secondsPerDay * date.day + time.seconds - offset, time.nanos⟩
    if t.inRange then some t else none
  else none

/-! ## 3. Writing -/

/-- The fraction of a second, with three, six or nine digits if there is one. -/
def writeFraction (nanos : Nat) : String :=
  if nanos = 0 then ""
  else if nanos % 1000000 = 0 then "." ++ TimeOfDay.padded 3 (nanos / 1000000)
  else if nanos % 1000 = 0 then "." ++ TimeOfDay.padded 6 (nanos / 1000)
  else "." ++ TimeOfDay.padded 9 nanos

/-- The year, with a sign unless it has four digits. -/
def writeYear (year : Int) : String :=
  if 0 ≤ year && year ≤ 9999 then TimeOfDay.padded 4 year.toNat
  else (if year < 0 then "-" else "+") ++ TimeOfDay.padded 4 year.natAbs

/-- The instant in UTC, followed by a mark of the offset. -/
def writeWith (mark : String) (t : Instant) : String :=
  let date := Date.ofDay (t.seconds / secondsPerDay)
  let second := (t.seconds % secondsPerDay).toNat
  let leap := t.nanos / nanosPerSecond
  writeYear date.year ++ "-" ++ TimeOfDay.padded 2 date.month ++ "-" ++
    TimeOfDay.padded 2 date.dayOfMonth ++ "T" ++ TimeOfDay.padded 2 (second / 3600) ++ ":" ++
    TimeOfDay.padded 2 (second / 60 % 60) ++ ":" ++ TimeOfDay.padded 2 (second % 60 + leap) ++
    writeFraction (t.nanos % nanosPerSecond) ++ mark

/-- The instant as a message shows it. -/
def describe (t : Instant) : String := t.writeWith "+00:00"

/-- The instant as a document holds it. -/
def write (t : Instant) : String := t.writeWith "Z"

end Instant

end LeadRouting
