import LeadRouting.Time.Zone

/-!
# Listed zones

The zones that a run of the program is given: an excerpt of the database of zones, in which the
clocks of a place follow the same rule in every year, the present one. Where a place saves daylight,
the saving starts and ends on a Sunday that its rule names; the hour of the change is told by UTC,
by the standard time of the place or by the clock on the wall there.

**Nothing depends on this list but a run of the program**: results are about zones in general, and
are applied to these where something is to be seen at a fixed instant of these years.
-/

namespace LeadRouting

/-! ## 1. Rules -/

/-- Which Sunday of a month. -/
inductive Sunday where
  | nth (n : Nat)
  | last

/-- The clock by which the hour of a change is told. -/
inductive ClockKind where
  | universal
  | standard
  | wall

/-- A change of the clock that comes every year. -/
structure Change where
  month : Nat
  sunday : Sunday
  seconds : Int
  clock : ClockKind

/-- A saving of daylight, in seconds, with its start and its end. -/
structure Saving where
  amount : Int
  start : Change
  stop : Change

/-- The offset of the standard time, in seconds, and the saving of daylight. -/
structure Rules where
  standard : Int
  saving : Option Saving

/-- The day of a change. -/
def Change.dayIn (c : Change) (year : Int) : Int :=
  match c.sunday with
  | .nth n => Date.sundayOfMonth year c.month n
  | .last => Date.lastSundayOfMonth year c.month

/-- The second of a change in UTC, `wall` being the offset of the wall clock before it. -/
def Change.secondsIn (c : Change) (year standard wall : Int) : Int :=
  let offset := match c.clock with
    | .universal => 0
    | .standard => standard
    | .wall => wall
  86400 * c.dayIn year + c.seconds - offset

/-- The offset from UTC at a second. -/
def Rules.offset (r : Rules) (seconds : Int) : Int :=
  match r.saving with
  | none => r.standard
  | some s =>
    let year := (Date.ofDay ((seconds + r.standard) / 86400)).year
    let start := s.start.secondsIn year r.standard r.standard
    let stop := s.stop.secondsIn year r.standard (r.standard + s.amount)
    let saved :=
      if start < stop then start ≤ seconds && seconds < stop
      else start ≤ seconds || seconds < stop
    if saved then r.standard + s.amount else r.standard

/-! ## 2. Places -/

/-- The rule of the American zones: two o'clock on the second Sunday of March and the first one of
November. -/
def Saving.american : Saving :=
  ⟨3600, ⟨3, .nth 1, 7200, .wall⟩, ⟨11, .nth 0, 7200, .wall⟩⟩

/-- The rule of the European zones: one o'clock UTC on the last Sundays of March and October. -/
def Saving.european : Saving :=
  ⟨3600, ⟨3, .last, 3600, .universal⟩, ⟨10, .last, 3600, .universal⟩⟩

/-- The rule of Sydney: two o'clock standard time on the first Sundays of October and April. -/
def Saving.sydney : Saving :=
  ⟨3600, ⟨10, .nth 0, 7200, .standard⟩, ⟨4, .nth 0, 7200, .standard⟩⟩

/-- The rule of Lord Howe: two o'clock on the same Sundays, and half an hour only. -/
def Saving.lordHowe : Saving :=
  ⟨1800, ⟨10, .nth 0, 7200, .wall⟩, ⟨4, .nth 0, 7200, .wall⟩⟩

/-- The rule of Chatham: a quarter to three standard time on the last Sunday of September and the
first one of April. -/
def Saving.chatham : Saving :=
  ⟨3600, ⟨9, .last, 9900, .standard⟩, ⟨4, .nth 0, 9900, .standard⟩⟩

/-- A zone of the list. -/
inductive ListedZone where
  | utc | etcUtc | gmt | fiveWest
  | chicago | newYork | losAngeles | denver | phoenix | stJohns | pacific
  | london | paris
  | kolkata | kathmandu | tokyo
  | sydney | lordHowe
  | chatham | kiritimati | pagoPago
  deriving DecidableEq

namespace ListedZone

/-- Every zone of the list. -/
def all : List ListedZone :=
  [.utc, .etcUtc, .gmt, .fiveWest, .chicago, .newYork, .losAngeles, .denver, .phoenix, .stJohns,
    .pacific, .london, .paris, .kolkata, .kathmandu, .tokyo, .sydney, .lordHowe, .chatham,
    .kiritimati, .pagoPago]

/-- The name of the zone. -/
def name : ListedZone → String
  | .utc => "UTC"
  | .etcUtc => "Etc/UTC"
  | .gmt => "GMT"
  | .fiveWest => "Etc/GMT+5"
  | .chicago => "America/Chicago"
  | .newYork => "America/New_York"
  | .losAngeles => "America/Los_Angeles"
  | .denver => "America/Denver"
  | .phoenix => "America/Phoenix"
  | .stJohns => "America/St_Johns"
  | .pacific => "US/Pacific"
  | .london => "Europe/London"
  | .paris => "Europe/Paris"
  | .kolkata => "Asia/Kolkata"
  | .kathmandu => "Asia/Kathmandu"
  | .tokyo => "Asia/Tokyo"
  | .sydney => "Australia/Sydney"
  | .lordHowe => "Australia/Lord_Howe"
  | .chatham => "Pacific/Chatham"
  | .kiritimati => "Pacific/Kiritimati"
  | .pagoPago => "Pacific/Pago_Pago"

/-- The zone of a name, which has to be exact. -/
def ofName? (s : String) : Option ListedZone := all.find? fun z => z.name = s

/-- The clocks of the zone. -/
def rules : ListedZone → Rules
  | .utc | .etcUtc | .gmt => ⟨0, none⟩
  | .fiveWest => ⟨-18000, none⟩
  | .chicago => ⟨-21600, some .american⟩
  | .newYork => ⟨-18000, some .american⟩
  | .losAngeles | .pacific => ⟨-28800, some .american⟩
  | .denver => ⟨-25200, some .american⟩
  | .phoenix => ⟨-25200, none⟩
  | .stJohns => ⟨-12600, some .american⟩
  | .london => ⟨0, some .european⟩
  | .paris => ⟨3600, some .european⟩
  | .kolkata => ⟨19800, none⟩
  | .kathmandu => ⟨20700, none⟩
  | .tokyo => ⟨32400, none⟩
  | .sydney => ⟨36000, some .sydney⟩
  | .lordHowe => ⟨37800, some .lordHowe⟩
  | .chatham => ⟨45900, some .chatham⟩
  | .kiritimati => ⟨50400, none⟩
  | .pagoPago => ⟨-39600, none⟩

/-- The offset of the zone from UTC at a second, in seconds. -/
def offset (z : ListedZone) (seconds : Int) : Int := z.rules.offset seconds

end ListedZone

/-- The zones of the list are the zones that there are. -/
instance ListedZone.zones : Zones where
  Carrier := ListedZone
  decEq := inferInstance
  utc := .utc
  name := name
  ofName? := ofName?
  offset := offset

end LeadRouting
