import LeadRouting.Time.Calendar

/-!
# Time zones

A zone has a name and an offset from UTC. Which zones there are, under which names, and when their
clocks are changed is laid down in a database that is kept elsewhere and renewed every few months.
**So the zones are a parameter** (`Zones`): what is said here holds with every edition of it.

What a result needs to know of the database stands in its statement.

* `Zones.Named` -- a zone is found under its name;
* `Zones.Steady` -- the clocks of a zone are less than a day away from UTC, and they are not changed
  every week.
-/

namespace LeadRouting

/-- The zones that there are. -/
class Zones where
  /-- A zone. -/
  Carrier : Type
  decEq : DecidableEq Carrier
  /-- The zone that is taken where none is named. -/
  utc : Carrier
  /-- The name of a zone. -/
  name : Carrier → String
  /-- The zone of a name, if there is one. -/
  ofName? : String → Option Carrier
  /-- The offset of a zone from UTC at a second, in seconds. -/
  offset : Carrier → Int → Int

/-- A zone. -/
def Zone [Zones] : Type := Zones.Carrier

section

variable [Zones]

instance : DecidableEq Zone := Zones.decEq

namespace Zone

/-- The zone UTC. -/
def utc : Zone := Zones.utc

/-- The name of the zone. -/
def name (z : Zone) : String := Zones.name z

/-- The zone of a name. -/
def ofName? (s : String) : Option Zone := Zones.ofName? s

/-- The offset of the zone from UTC at a second, in seconds. -/
def offset (z : Zone) (seconds : Int) : Int := Zones.offset z seconds

end Zone

/-- Every zone has a name of its own, and is found under it. -/
class Zones.Named : Prop where
  ofName?_name : ∀ z : Zone, Zone.ofName? z.name = some z

/-- The clocks of every zone are less than a day away from UTC, and on some nine days between the
years 1970 and 10000 they are not changed. -/
class Zones.Steady : Prop where
  offset_bounds : ∀ (z : Zone) (seconds : Int), -86400 < z.offset seconds ∧ z.offset seconds < 86400
  steady_days : ∀ z : Zone, ∃ first offset : Int, 0 ≤ first ∧ first + 9 ≤ Date.day ⟨10000, 1, 1⟩ ∧
    ∀ seconds, 86400 * first ≤ seconds → seconds < 86400 * (first + 9) → z.offset seconds = offset

@[simp] theorem Zone.ofName?_name [Zones.Named] (z : Zone) : ofName? z.name = some z :=
  Zones.Named.ofName?_name z

end

end LeadRouting
