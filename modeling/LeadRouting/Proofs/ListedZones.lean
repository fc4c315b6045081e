import LeadRouting.Time.ListedZone

/-!
# The listed zones among others

What is said of zones in general can be applied to those of the list: they are found under their
names, and in the second half of January no clock of any of them is changed.

* `Rules.offset_of_changes_ahead` -- the offset while both changes of the year lie ahead;
* `ListedZone.offset_bounds` -- it is less than a day, always;
* `ListedZone.exists_steady_offset` -- it is the same at all seconds of eleven days.
-/

namespace LeadRouting

/-! ## 1. Rules -/

/-- While both changes of a year lie ahead the clocks show the saving where it is to stop first. -/
theorem Rules.offset_of_changes_ahead {r : Rules} {saving : Saving}
    (hsaving : r.saving = some saving) {seconds year : Int} (hyear : (Date.ofDay ((seconds + r.standard) / 86400)).year = year)
    (hstart : seconds < saving.start.secondsIn year r.standard r.standard)
    (hstop : seconds < saving.stop.secondsIn year r.standard (r.standard + saving.amount)) :
    r.offset seconds =
      if saving.start.secondsIn year r.standard r.standard <
          saving.stop.secondsIn year r.standard (r.standard + saving.amount) then r.standard
      else r.standard + saving.amount := by
  have hunstarted : ¬ saving.start.secondsIn year r.standard r.standard ≤ seconds := by omega
  unfold offset
  simp only [hsaving, hyear, hunstarted, hstop]
  split <;> rfl

/-- The offset is that of the standard time, or that of the saving. -/
theorem Rules.offset_cases (r : Rules) (seconds : Int) : r.offset seconds = r.standard ∨
    ∃ saving, r.saving = some saving ∧ r.offset seconds = r.standard + saving.amount := by
  cases hsaving : r.saving with
  | none => exact .inl (by simp only [offset, hsaving])
  | some saving =>
      have heither (saved : Bool) : let o := if saved then r.standard + saving.amount else r.standard
          o = r.standard ∨ ∃ s, some saving = some s ∧ o = r.standard + s.amount := by
        cases saved
        · exact .inl rfl
        · exact .inr ⟨saving, rfl, rfl⟩
      simp only [offset, hsaving]
      exact heither _

/-! ## 2. The second half of January -/

/-- The 15th of January 2024, a Monday. -/
def steadyDay : Int := 19737

/-- The second at which it begins in UTC. -/
def steadySecond : Int := 86400 * steadyDay

example : Date.ofDay steadyDay = ⟨2024, 1, 15⟩ ∧ Weekday.ofDay steadyDay = .mon := by decide

theorem Date.year_of_steady {day : Int} (hlow : steadyDay - 1 ≤ day) (hhigh : day ≤ steadyDay + 9) :
    (Date.ofDay day).year = 2024 := by
  have hdays : ∀ n : Fin 11, (Date.ofDay (steadyDay - 1 + (n : Nat))).year = 2024 := by decide
  have h := hdays ⟨(day - (steadyDay - 1)).toNat, by omega⟩
  rwa [show steadyDay - 1 + ((day - (steadyDay - 1)).toNat : Int) = day by omega] at h

namespace ListedZone

/-- The standard time of a zone is less than a day away from UTC. -/
theorem standard_bounds (z : ListedZone) :
    -86400 < z.rules.standard ∧ z.rules.standard < 86400 := by
  cases z <;> decide

/-- And so is its time while daylight is saved. -/
theorem saved_bounds (z : ListedZone) (saving : Saving) (h : z.rules.saving = some saving) :
    -86400 < z.rules.standard + saving.amount ∧ z.rules.standard + saving.amount < 86400 := by
  cases z <;> cases h <;> decide

theorem offset_bounds (z : ListedZone) (seconds : Int) :
    -86400 < z.offset seconds ∧ z.offset seconds < 86400 := by
  unfold offset
  obtain h | ⟨saving, hsaving, h⟩ := z.rules.offset_cases seconds
  · rw [h]
    exact z.standard_bounds
  · rw [h]
    exact z.saved_bounds saving hsaving

/-- The changes of the year 2024 lie behind the steady days in every zone. -/
theorem changes_ahead (z : ListedZone) (saving : Saving) (h : z.rules.saving = some saving) :
    86400 * (steadyDay + 9) ≤ saving.start.secondsIn 2024 z.rules.standard z.rules.standard ∧
      86400 * (steadyDay + 9) ≤
        saving.stop.secondsIn 2024 z.rules.standard (z.rules.standard + saving.amount) := by
  cases z <;> cases h <;> decide

/-- **No clock is changed on the steady days.** -/
theorem exists_steady_offset (z : ListedZone) : ∃ o, ∀ seconds, 86400 * steadyDay ≤ seconds →
    seconds < 86400 * (steadyDay + 9) → z.offset seconds = o := by
  cases hsaving : z.rules.saving with
  | none =>
      refine ⟨z.rules.standard, fun s _ _ => ?_⟩
      simp only [offset, Rules.offset, hsaving]
  | some saving =>
      obtain ⟨hlow, hhigh⟩ := z.standard_bounds
      obtain ⟨hstart, hstop⟩ := z.changes_ahead saving hsaving
      have hyear : ∀ s, 86400 * steadyDay ≤ s → s < 86400 * (steadyDay + 9) →
          (Date.ofDay ((s + z.rules.standard) / 86400)).year = 2024 := fun s hbegun hleft =>
        Date.year_of_steady (by omega) (by omega)
      exact ⟨_, fun s hbegun hleft => Rules.offset_of_changes_ahead hsaving (hyear s hbegun hleft)
        (Int.lt_of_lt_of_le hleft hstart) (Int.lt_of_lt_of_le hleft hstop)⟩

end ListedZone

/-! ## 3. As zones in general -/

instance ListedZone.named : Zones.Named where
  ofName?_name z := by cases z <;> decide

instance ListedZone.steady : Zones.Steady where
  offset_bounds := offset_bounds
  steady_days z :=
    have ⟨o, hsteady⟩ := exists_steady_offset z
    ⟨steadyDay, o, by decide, by decide, hsteady⟩

end LeadRouting
