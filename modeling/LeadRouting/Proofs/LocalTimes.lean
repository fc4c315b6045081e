import LeadRouting.Time.Instant

/-!
# What the clocks of a zone show

The clocks of a zone jump now and then, so on some day a time is not shown at all. On nine days in
a row they do not jump, and there the seconds of the zone are those of UTC but for a constant of
less than a day. A whole week of local days lies inside. So **every weekday and every time of day is
shown by the clocks of every zone**, at some instant.

* `Date.year_bounds` -- days between the years 1970 and 10000 lie in the years that are kept;
* `Weekday.exists_ofDay` -- seven days in a row fall on every weekday;
* **`Instant.exists_local`** -- the instant at which a weekday and a time of day are shown.
-/

namespace LeadRouting

/-! ## 1. Days -/

theorem Date.year_bounds {day : Int} (hlow : 0 ≤ day) (hhigh : day < Date.day ⟨10000, 1, 1⟩) :
    Instant.yearRange.1 ≤ (ofDay day).year ∧ (ofDay day).year ≤ Instant.yearRange.2 := by
  have hend : Date.day ⟨10000, 1, 1⟩ = 2932897 := by decide
  rw [hend] at hhigh
  unfold ofDay eraDays Instant.yearRange
  simp only
  constructor <;> split <;> omega

theorem Weekday.ofDay_congr {a b : Int} (h : (a + 3) % 7 = (b + 3) % 7) :
    Weekday.ofDay a = Weekday.ofDay b := by
  unfold ofDay
  rw [h]

/-- **Seven days in a row fall on every weekday.** -/
theorem Weekday.exists_ofDay (first : Int) (d : Weekday) :
    ∃ n, 0 ≤ n ∧ n < 7 ∧ Weekday.ofDay (first + n) = d := by
  obtain ⟨day, rfl⟩ : ∃ day : Fin 7, Weekday.ofDay (day : Nat) = d := by cases d <;> decide
  exact ⟨((day : Nat) - first) % 7, by omega, by omega, ofDay_congr (by omega)⟩

/-! ## 2. Weekdays and times -/

namespace Instant

theorem inRange_of_day {t : Instant} (hlow : 0 ≤ t.seconds / 86400)
    (hhigh : t.seconds / 86400 < Date.day ⟨10000, 1, 1⟩) : t.inRange = true := by
  obtain ⟨hfirst, hlast⟩ := Date.year_bounds hlow hhigh
  unfold inRange secondsPerDay
  simp [hfirst, hlast]

variable [Zones]

theorem localDay_of_shown {t : Instant} {z : Zone} {day : Int} {time : TimeOfDay}
    (h : t.localSeconds z = 86400 * day + time.seconds) : t.localDay z = day := by
  have hseconds := time.seconds_lt
  unfold secondsPerDay at hseconds
  unfold localDay secondsPerDay
  omega

theorem localTime_of_shown {t : Instant} {z : Zone} {day : Int} {time : TimeOfDay}
    (h : t.localSeconds z = 86400 * day + time.seconds) (hnanos : t.nanos = time.nanos) :
    t.localTime z = time := by
  have hseconds := time.seconds_lt
  unfold secondsPerDay at hseconds
  have hshown : (t.localSeconds z % secondsPerDay).toNat = time.seconds := by
    unfold secondsPerDay
    omega
  unfold localTime
  simp only [hshown, hnanos]

/-- **Every weekday and every time of day is shown by the clocks of every zone.** -/
theorem exists_local [Zones.Steady] (z : Zone) (d : Weekday) (time : TimeOfDay) :
    ∃ now : Instant, now.inRange = true ∧ now.localWeekday z = d ∧ now.localTime z = time := by
  obtain ⟨first, o, hfirst, hlast, hsteady⟩ := Zones.Steady.steady_days z
  obtain ⟨hback, hahead⟩ := Zones.Steady.offset_bounds z (86400 * first)
  rw [hsteady (86400 * first) (by omega) (by omega)] at hback hahead
  -- the days on the clocks from the second to the eighth one begin and end within the nine by UTC
  obtain ⟨n, hn, hweek, hday⟩ := d.exists_ofDay (first + 1)
  have hseconds := time.seconds_lt
  unfold secondsPerDay at hseconds
  let now : Instant := ⟨86400 * (first + 1 + n) + time.seconds - o, time.nanos⟩
  have hbegun : 86400 * first ≤ now.seconds := by
    simp only [now]
    omega
  have hleft : now.seconds < 86400 * (first + 9) := by
    simp only [now]
    omega
  have hshown : now.localSeconds z = 86400 * (first + 1 + n) + time.seconds := by
    unfold localSeconds
    rw [hsteady now.seconds hbegun hleft]
    exact Int.sub_add_cancel _ _
  refine ⟨now, inRange_of_day (by omega) (by omega), ?_, localTime_of_shown hshown rfl⟩
  unfold localWeekday
  rw [localDay_of_shown hshown, hday]

end Instant

end LeadRouting
