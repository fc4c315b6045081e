import LeadRouting.Lead.Context

/-!
# Time windows

A window covers the times from its start up to its end, the end left out, on some days or on all.
When the end comes before the start the window runs past midnight, and **the part after midnight
belongs to the day on which the window began**. A window whose start is its end covers nothing.

The day and the time are those of the window's zone, or of the tenant's if the window names none.
-/

namespace LeadRouting

variable [Zones]

/-- A span of time that comes back every day or on some weekdays. -/
structure Window where
  zone : Option Zone
  start : TimeOfDay
  stop : TimeOfDay
  /-- The days on which the window begins; all of them where there is no list. -/
  days : Option (List Weekday)
  deriving DecidableEq

namespace Window

/-- The window runs past midnight. -/
def wraps (w : Window) : Bool := w.stop.before w.start

/-- The window begins on a weekday. -/
def allows (w : Window) (d : Weekday) : Bool := w.days.all fun days => days.contains d

/-- The window covers a time of a weekday. -/
def covers (w : Window) (d : Weekday) (t : TimeOfDay) : Bool :=
  if w.start.before w.stop then !t.before w.start && t.before w.stop && w.allows d
  else if w.stop.before w.start then
    (!t.before w.start && w.allows d) || (t.before w.stop && w.allows d.pred)
  else false

/-- The window covers an instant, as seen from its zone or from the tenant's. -/
def contains (w : Window) (tenant : Zone) (now : Instant) : Bool :=
  let z := w.zone.getD tenant
  w.covers (now.localWeekday z) (now.localTime z)

/-- Why an instant lies in none of the windows, if it does not. -/
def failure? (windows : List Window) (tenant : Zone) (now : Instant) : Option String :=
  if windows.any fun w => w.contains tenant now then none
  else some (now.describe ++ " is outside all " ++ toString windows.length ++ " window(s)")

end Window

/-! ## As values -/

/-- Reads a time of day. -/
def TimeOfDay.decode : Decoder TimeOfDay := .spelledAs TimeOfDay.read? .badTimeOfDay

/-- Reads a weekday. -/
def Weekday.decode : Decoder Weekday := .spelledAs Weekday.ofName? fun _ => .unreadable

/-- Reads a window. -/
def Window.decode : Decoder Window :=
  Fields.decoder
    (Window.mk
      <$> .optional "timezone" Zone.decode
      <*> .required "start" TimeOfDay.decode
      <*> .required "end" TimeOfDay.decode
      <*> .optional "days" (.list Weekday.decode))
    true

/-- The window as a value. -/
def Window.toJson (w : Window) : Json := .record
  [ ("timezone", .ofOption (fun z => .text z.name) w.zone),
    ("start", .text w.start.write),
    ("end", .text w.stop.write),
    ("days", .ofOption (.ofList fun d => .text d.name) w.days) ]

end LeadRouting
