import LeadRouting.Condition.Window
import LeadRouting.Time.ListedZone

/-!
# The day to which a time belongs

A window that runs past midnight covers the late hours of a day and the early hours of the next one,
and both belong to the day on which it began. This file takes what a window covers apart into WHEN it
is open, whatever the day, and the DAY to which a time of it belongs.

* `TimeOfDay.before_eq_not` -- of two different times exactly one comes first;
* `Window.spans`, `Window.dayOf` -- the two halves; **`Window.covers_eq`**: a window covers a time of
  a weekday where it spans the time and allows the day to which the time belongs;
* `Window.spans_swapped` -- a window and the one from its end to its start share the times of the day
  between them;
* **`Window.contains_one_day`** -- so every instant that is covered belongs to exactly one day, and
  a list of days keeps the instant where it lists that day.
-/

namespace LeadRouting

/-! ## 1. The order of times -/

namespace TimeOfDay

theorem not_before_of_before {s t : TimeOfDay} (h : before s t = true) : before t s = false := by
  rw [before_iff] at h
  rw [Bool.eq_false_iff, Ne, before_iff]
  omega

theorem before_trans {s t u : TimeOfDay} (h : before s t = true) (h' : before t u = true) :
    before s u = true := by
  rw [before_iff] at h h' ⊢
  omega

/-- **Of two different times exactly one comes first.** -/
theorem before_eq_not {s t : TimeOfDay} (h : s ≠ t) : before s t = !before t s := by
  cases hst : before s t with
  | true => rw [not_before_of_before hst, Bool.not_false]
  | false =>
      cases hts : before t s with
      | true => rfl
      | false => exact absurd (eq_of_not_before hst hts) h

theorem before_of_not {s t : TimeOfDay} (h : s ≠ t) (hst : before s t = false) :
    before t s = true := by
  rw [before_eq_not h.symm, hst, Bool.not_false]

theorem ne_of_before {s t : TimeOfDay} (h : before s t = true) : s ≠ t := by
  rintro rfl
  rw [before_irrefl] at h
  cases h

end TimeOfDay

namespace Window

section Days

variable [Zones]

/-! ## 2. When a window is open -/

/-- The window is open at a time, on whatever day it began. -/
def spans (w : Window) (t : TimeOfDay) : Bool :=
  if w.start.before w.stop then !t.before w.start && t.before w.stop
  else if w.wraps then !t.before w.start || t.before w.stop
  else false

/-- The day on which the window began that is open at a time of a weekday: **the day before if the
    window runs past midnight and the time lies before its end**. -/
def dayOf (w : Window) (d : Weekday) (t : TimeOfDay) : Weekday :=
  if w.wraps && t.before w.stop then d.pred else d

/-- The window from the end to the start. -/
def swapped (w : Window) : Window := { w with start := w.stop, stop := w.start }

/-- The window on the days of a list. -/
def on (w : Window) (days : List Weekday) : Window := { w with days := some days }

/-- **What a window covers is when it is open and which days it allows.** -/
theorem covers_eq (w : Window) (d : Weekday) (t : TimeOfDay) :
    w.covers d t = (w.spans t && w.allows (w.dayOf d t)) := by
  unfold covers spans dayOf wraps
  cases hshort : w.start.before w.stop with
  | true => simp [TimeOfDay.not_before_of_before hshort]
  | false =>
      cases hlong : w.stop.before w.start with
      | false => rfl
      | true =>
          cases hearly : t.before w.stop with
          | false => simp
          | true =>
              -- before its end such a window has not begun again, so one day is asked for only
              have hstart : t.before w.start = true := TimeOfDay.before_trans hearly hlong
              simp [hstart]

/-- **Each time lies in a window or in the one from its end to its start**, and never in both. -/
theorem spans_swapped {w : Window} (h : w.start ≠ w.stop) (t : TimeOfDay) :
    w.swapped.spans t = !w.spans t := by
  unfold spans wraps swapped
  cases hshort : w.start.before w.stop with
  | true => simp [TimeOfDay.not_before_of_before hshort, Bool.or_comm]
  | false =>
      have hlong := TimeOfDay.before_of_not h hshort
      simp [hlong, Bool.and_comm]

/-- A window without days covers a time whenever it is open. -/
theorem covers_of_daily {w : Window} (h : w.days = none) (d : Weekday) (t : TimeOfDay) :
    w.covers d t = w.spans t := by
  rw [covers_eq, allows, h, Option.all_none, Bool.and_true]

/-- On the days of a list a window covers what it covers on days of the list. -/
theorem covers_on (w : Window) (days : List Weekday) (d : Weekday) (t : TimeOfDay) :
    (w.on days).covers d t = (w.spans t && days.contains (w.dayOf d t)) := covers_eq _ d t

/-! ## 3. Instants -/

/-- **Every covered instant belongs to exactly one day.** Of a window without days and the window
    from its end to its start exactly one contains an instant. The one that does contains it on
    exactly one day, and on the days of every list that has this day: the weekday, or the one before
    if the window runs past midnight and the time lies before its end. A window that does not contain
    it contains it on the days of no list. -/
theorem contains_one_day (zone : Option Zone) {start stop : TimeOfDay} (h : start ≠ stop)
    (tenant : Zone) (now : Instant) :
    let w : Window := ⟨zone, start, stop, none⟩
    let d := now.localWeekday (zone.getD tenant)
    let t := now.localTime (zone.getD tenant)
    (w.contains tenant now = true ↔ ¬ w.swapped.contains tenant now = true) ∧
    (w.contains tenant now = true → ∃ day,
      (∀ other, (w.on [other]).contains tenant now = true ↔ other = day) ∧
      (∀ days, (w.on days).contains tenant now = true ↔ day ∈ days) ∧
      day = if stop.before start = true ∧ t.before stop = true then d.pred else d) ∧
    (w.contains tenant now = false → ∀ days, (w.on days).contains tenant now = false) := by
  intro w d t
  have hdaily : w.contains tenant now = w.spans t := covers_of_daily rfl d t
  have hswapped : w.swapped.contains tenant now = !w.spans t :=
    (covers_of_daily rfl d t).trans (spans_swapped h t)
  have hon : ∀ days, (w.on days).contains tenant now = (w.spans t && days.contains (w.dayOf d t)) :=
    fun days => covers_on w days d t
  refine ⟨?_, ?_, ?_⟩
  · rw [hdaily, hswapped, Bool.not_eq_true', Bool.not_eq_false]
  · intro hopen
    rw [hdaily] at hopen
    have hlists : ∀ days, (w.on days).contains tenant now = true ↔ w.dayOf d t ∈ days := by
      intro days
      rw [hon, hopen, Bool.true_and, List.contains_iff_mem]
    refine ⟨w.dayOf d t, fun other => ?_, hlists, ?_⟩
    · rw [hlists, List.mem_singleton, eq_comm]
    · simp only [dayOf, wraps, w, Bool.and_eq_true]
  · intro hshut days
    rw [hon, ← hdaily, hshut, Bool.false_and]

end Days

/-- At three in the morning of a Monday in Chicago a window from ten in the evening to six belongs to
    the Sunday. -/
theorem contains_one_day_monday :
    let zone : Zone := .chicago
    let start : TimeOfDay := ⟨79200, 0, by decide⟩
    let stop : TimeOfDay := ⟨21600, 0, by decide⟩
    let w : Window := ⟨some zone, start, stop, none⟩
    let now : Instant := ⟨1714982400, 0⟩
    start ≠ stop ∧ now.localWeekday zone = .mon ∧ w.contains .utc now = true ∧
      ¬ w.swapped.contains .utc now = true ∧
      (∀ days, (w.on days).contains .utc now = true ↔ .sun ∈ days) := by
  intro zone start stop w now
  have hlength : start ≠ stop := by decide
  have hopen : w.contains .utc now = true := by decide +kernel
  obtain ⟨hswapped, hday, -⟩ := contains_one_day (some zone) hlength .utc now
  obtain ⟨day, -, hlists, hsunday⟩ := hday hopen
  have hsunday : day = .sun := hsunday.trans (by decide +kernel)
  exact ⟨hlength, by decide +kernel, hopen, hswapped.mp hopen, hsunday ▸ hlists⟩

end Window

end LeadRouting
