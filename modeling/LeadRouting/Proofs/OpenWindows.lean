import LeadRouting.Proofs.Acceptance
import LeadRouting.Proofs.ListedZones
import LeadRouting.Proofs.LocalTimes
import LeadRouting.Proofs.WindowDays

/-!
# Windows that are never open

A window without a length and a window that lists no days are reported. This file says that these
are the windows that cover NOTHING: all others are open at their start, on a day that they allow.

* `Window.findings_eq_nil_iff` -- what is not reported is what is sound;
* `Window.Sound.covers_start`, `Window.sound_of_covers` -- what is sound covers its own start,
  and what covers anything is sound;
* **`Window.reported_iff_never_open`** -- so a window is reported exactly where it is open at no
  weekday and time. As the clocks of a zone that is not changed every week show every weekday and
  time, this is where it contains no instant, wherever the tenant is.
-/

namespace LeadRouting

namespace Window

section Open

variable [Zones] {w : Window}

theorem findings_eq_nil_iff (source : String) (i : Nat) (w : Window) :
    w.findings source i = [] ↔ w.Sound := by
  have hunwarned : warned (w.findings source i) = false := by
    unfold findings
    rw [warned_append, warned_findIf_error, warned_findIf_error]
    rfl
  rw [eq_nil_iff_harmless, and_iff_left hunwarned, harmless_iff]

/-- A window with a length is open at its start. -/
theorem spans_start (h : w.start ≠ w.stop) : w.spans w.start = true := by
  unfold spans wraps
  rw [TimeOfDay.before_irrefl]
  cases hshort : w.start.before w.stop with
  | true => rfl
  | false =>
      have hlong := TimeOfDay.before_of_not h hshort
      simp [hlong]

/-- The start belongs to the day on which it is. -/
theorem dayOf_start (w : Window) (d : Weekday) : w.dayOf d w.start = d := by
  unfold dayOf wraps
  cases hlong : w.stop.before w.start with
  | false => simp
  | true => simp [TimeOfDay.not_before_of_before hlong]

theorem exists_allowed (h : w.days ≠ some []) : ∃ d, w.allows d = true := by
  unfold allows
  cases hdays : w.days with
  | none => exact ⟨.mon, rfl⟩
  | some days =>
      cases days with
      | nil => exact absurd hdays h
      | cons d rest => exact ⟨d, by simp⟩

/-- **A sound window covers its start**, on a day that it allows. -/
theorem Sound.covers_start (h : w.Sound) : ∃ d, w.covers d w.start = true := by
  obtain ⟨d, hd⟩ := exists_allowed h.days
  refine ⟨d, ?_⟩
  rw [covers_eq, spans_start h.length, dayOf_start, hd, Bool.and_true]

/-- **A window that covers anything is sound.** -/
theorem sound_of_covers {d : Weekday} {t : TimeOfDay} (h : w.covers d t = true) : w.Sound := by
  rw [covers_eq, Bool.and_eq_true] at h
  obtain ⟨hopen, hallowed⟩ := h
  refine ⟨fun hlength => ?_, fun hdays => ?_⟩
  · unfold spans wraps at hopen
    simp [hlength, TimeOfDay.before_irrefl] at hopen
  · unfold allows at hallowed
    simp [hdays] at hallowed

/-- What a window covers it contains at some instant, wherever the tenant is. -/
theorem exists_contains [Zones.Steady] {d : Weekday} {t : TimeOfDay} (h : w.covers d t = true)
    (tenant : Zone) : ∃ now : Instant, now.inRange = true ∧ w.contains tenant now = true := by
  obtain ⟨now, hrange, hd, ht⟩ := Instant.exists_local (w.zone.getD tenant) d t
  refine ⟨now, hrange, ?_⟩
  show w.covers (now.localWeekday (w.zone.getD tenant)) (now.localTime (w.zone.getD tenant)) = true
  rw [hd, ht]
  exact h

theorem contains_of_not_sound (h : ¬ w.Sound) (tenant : Zone) (now : Instant) :
    w.contains tenant now = false :=
  Bool.eq_false_iff.mpr fun hnow => h (sound_of_covers hnow)

/-- **Exactly the windows that can never match are reported.** A window is not reported where there
    is a weekday and a time that it covers. A window that is reported contains no instant for any
    tenant, and an empty list of windows does not either. Where no zone is changed every week, a
    window that is not reported contains some instant for every tenant. -/
theorem reported_iff_never_open (source : String) (i : Nat) (w : Window) :
    (w.findings source i = [] ↔ ∃ d t, w.covers d t = true) ∧
    (w.findings source i ≠ [] → ∀ tenant now, w.contains tenant now = false) ∧
    (∀ tenant now, (failure? [] tenant now).isSome = true) ∧
    (Zones.Steady → w.findings source i = [] →
      ∀ tenant, ∃ now : Instant, now.inRange = true ∧ w.contains tenant now = true) := by
  rw [Ne, findings_eq_nil_iff]
  refine ⟨⟨fun h => ?_, ?_⟩, contains_of_not_sound, fun _ _ => rfl, fun _ h tenant => ?_⟩
  · obtain ⟨d, hd⟩ := h.covers_start
    exact ⟨d, w.start, hd⟩
  · rintro ⟨d, t, h⟩
    exact sound_of_covers h
  · obtain ⟨d, hd⟩ := h.covers_start
    exact exists_contains hd tenant

end Open

/-- A window of one second at the end of Sundays in Chicago is not reported: it covers the last
    second, and a leap second too, and some instant lies in it. On no days it is reported, and no
    instant does. -/
theorem reported_iff_never_open_sunday :
    let zone : Zone := .chicago
    let w : Window := ⟨some zone, ⟨86399, 0, by decide⟩, ⟨0, 0, by decide⟩, some [.sun]⟩
    let shut : Window := { w with days := some [] }
    Zones.Steady ∧ w.findings "rule" 0 = [] ∧
      w.covers .sun ⟨86399, 1500000000, by decide⟩ = true ∧
      (∀ tenant, ∃ now : Instant, now.inRange = true ∧ w.contains tenant now = true) ∧
      shut.findings "rule" 0 ≠ [] ∧ ∀ tenant now, shut.contains tenant now = false := by
  intro zone w shut
  have hcovered : w.covers .sun ⟨86399, 1500000000, by decide⟩ = true := by decide +kernel
  have hshut : shut.findings "rule" 0 ≠ [] := by decide +kernel
  obtain ⟨hcovers, -, -, hopen⟩ := reported_iff_never_open "rule" 0 w
  have hfine := hcovers.mpr ⟨_, _, hcovered⟩
  obtain ⟨-, hnever, -, -⟩ := reported_iff_never_open "rule" 0 shut
  exact ⟨ListedZone.steady, hfine, hcovered, hopen ListedZone.steady hfine, hshut, hnever hshut⟩

end Window

end LeadRouting
