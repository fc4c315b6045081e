import LeadRouting.Proofs.OpenWindows
import LeadRouting.Proofs.RuleCodec

/-!
# Times that are written and read again

A time of day may be given with seconds, and it is written without them. So what is read again is
the beginning of its minute, and a window that is written and read again runs from one full minute
to another: it may be open at other times than before, or never.

* `TimeOfDay.read?_write_eq` -- what comes back is the beginning of the minute;
  `TimeOfDay.fullMinute_of_read?` -- this is the time itself where the text had no seconds;
* `Window.ends_of_spans` -- two windows that are open at the same times have the same ends, so that
  every change of an end SHOWS at some instant (`Window.ends_of_contains`);
* `Window.reads_onMinutes` -- the window that comes back; `Window.contains_onMinutes` and
  `Window.fullMinutes_of_contains` -- where it contains the same instants, and that it does so nowhere
  else; `Window.findings_onMinutes_iff` -- where the same is found wrong with it;
* **`Window.reread_on_minutes`** -- of times the full minutes survive, and of windows those between
  full minutes and those that were never open.
-/

namespace LeadRouting

/-! ## 1. Times -/

namespace TimeOfDay

/-- The beginning of the minute in which the time lies. -/
def minute (t : TimeOfDay) : TimeOfDay where
  seconds := 60 * (t.seconds / 60)
  nanos := 0
  seconds_lt := Nat.lt_of_le_of_lt (Nat.mul_div_le _ _) t.seconds_lt

theorem fullMinute_minute (t : TimeOfDay) : t.minute.FullMinute := ⟨Nat.mul_mod_right 60 _, rfl⟩

theorem minute_eq_self_iff {t : TimeOfDay} : t.minute = t ↔ t.FullMinute := by
  constructor
  · intro h
    rw [← h]
    exact t.fullMinute_minute
  · rintro ⟨hseconds, hnanos⟩
    obtain ⟨seconds, nanos, hlt⟩ := t
    obtain rfl : nanos = 0 := hnanos
    simp only [minute, TimeOfDay.mk.injEq, and_true]
    exact Nat.mul_div_cancel' (Nat.dvd_of_mod_eq_zero hseconds)

/-- What is written is the minute. -/
@[simp] theorem write_minute (t : TimeOfDay) : t.minute.write = t.write := by
  have hhour : 60 * (t.seconds / 60) / 3600 = t.seconds / 3600 := by omega
  have hminute : 60 * (t.seconds / 60) / 60 = t.seconds / 60 := by omega
  unfold write
  simp only [minute, hhour, hminute]

/-- **What is read again is the beginning of the minute.** -/
theorem read?_write_eq (t : TimeOfDay) : read? t.write = some t.minute := by
  rw [← write_minute]
  exact read?_write t.fullMinute_minute

theorem read?_write_iff (t : TimeOfDay) : read? t.write = some t ↔ t.FullMinute := by
  rw [read?_write_eq, Option.some_inj, minute_eq_self_iff]

/-! ## 2. Texts without seconds -/

theorem count_of_group? {cs rest : List Char} {n : Nat} (h : group? cs = some (n, rest)) (c : Char) :
    rest.count c ≤ cs.count c := by
  unfold group? digitGroup? at h
  dsimp only at h
  split at h
  · cases h
  · cases h
    exact ((List.drop_sublist _ _).trans (List.dropWhile_sublist _)).count_le c

theorem colon?_eq_some {cs rest : List Char} (h : colon? cs = some rest) : cs = ':' :: rest := by
  unfold colon? at h
  split at h
  · cases h; rfl
  · cases h

theorem fullMinute_of_ofClock? {hour minute : Nat} {t : TimeOfDay}
    (h : ofClock? hour minute 0 = some t) : t.FullMinute := by
  unfold ofClock? at h
  split at h
  · rw [if_neg (by decide)] at h
    cases h
    refine ⟨?_, rfl⟩
    show (3600 * hour + 60 * minute + 0) % 60 = 0
    omega
  · cases h

/-- A second colon stands in front of the seconds. -/
theorem fullMinute_of_ofChars? {cs : List Char} {t : TimeOfDay} (h : ofChars? cs = some t)
    (hcolons : cs.count ':' ≤ 1) : t.FullMinute := by
  unfold ofChars? at h
  simp only [Option.bind_eq_bind, Option.bind_eq_some_iff] at h
  obtain ⟨⟨hour, afterHour⟩, hhour, beforeMinute, hcolon, ⟨minute, afterMinute⟩, hminute, h⟩ := h
  split at h
  · exact fullMinute_of_ofClock? h
  · obtain ⟨beforeSecond, hsecond, -⟩ := Option.bind_eq_some_iff.mp h
    have hfirst := count_of_group? hhour ':'
    have hnext := count_of_group? hminute ':'
    obtain rfl : afterHour = ':' :: beforeMinute := colon?_eq_some hcolon
    obtain rfl : afterMinute = ':' :: beforeSecond := colon?_eq_some hsecond
    rw [List.count_cons_self] at hfirst hnext
    omega

/-- **A text with a single colon spells a full minute.** -/
theorem fullMinute_of_read? {s : String} {t : TimeOfDay} (h : read? s = some t)
    (hcolons : s.toList.count ':' ≤ 1) : t.FullMinute := by
  refine fullMinute_of_ofChars? h (Nat.le_trans ?_ hcolons)
  unfold Text.trimChars Text.trimEnd
  rw [List.count_reverse]
  refine Nat.le_trans ((List.dropWhile_sublist _).count_le _) ?_
  rw [List.count_reverse]
  exact (List.dropWhile_sublist _).count_le _

end TimeOfDay

/-! ## 3. The ends of a window -/

theorem Weekday.exists_pred (d : Weekday) : ∃ e : Weekday, e.pred = d := by
  cases d
  exacts [⟨.tue, rfl⟩, ⟨.wed, rfl⟩, ⟨.thu, rfl⟩, ⟨.fri, rfl⟩, ⟨.sat, rfl⟩, ⟨.sun, rfl⟩, ⟨.mon, rfl⟩]

theorem findIf_inj {a b : Bool} {f : Finding} : findIf a f = findIf b f ↔ a = b := by
  cases a <;> cases b <;> simp

namespace Window

section Minutes

variable [Zones] {v w : Window}

theorem spans_short (h : w.start.before w.stop = true) (t : TimeOfDay) :
    w.spans t = (!t.before w.start && t.before w.stop) := by
  unfold spans
  rw [if_pos h]

theorem spans_long (h : w.stop.before w.start = true) (t : TimeOfDay) :
    w.spans t = (!t.before w.start || t.before w.stop) := by
  unfold spans wraps
  rw [TimeOfDay.not_before_of_before h, if_neg Bool.false_ne_true, if_pos h]

/-- A window that is open where the other one begins does not begin later. -/
theorem start_not_before_of_short (hv : v.start.before v.stop = true) (hw : w.start ≠ w.stop)
    (hsame : ∀ t, v.spans t = w.spans t) : w.start.before v.start = false := by
  have hopen := (hsame w.start).trans (spans_start hw)
  rw [spans_short hv, Bool.and_eq_true, Bool.not_eq_true'] at hopen
  exact hopen.1

/-- With one start, a window that is shut where the other one ends does not end later. -/
theorem stop_not_before_of_short (hv : v.start.before v.stop = true)
    (hw : w.start.before w.stop = true) (hstart : v.start = w.start)
    (hsame : ∀ t, v.spans t = w.spans t) : v.stop.before w.stop = false := by
  have hshut := (hsame v.stop).symm
  rw [spans_short hv, spans_short hw, TimeOfDay.before_irrefl, Bool.and_false, ← hstart,
    TimeOfDay.not_before_of_before hv, Bool.not_false, Bool.true_and] at hshut
  exact hshut

theorem ends_of_spans_short (hv : v.start.before v.stop = true) (hw : w.start.before w.stop = true)
    (hsame : ∀ t, v.spans t = w.spans t) : v.start = w.start ∧ v.stop = w.stop := by
  have hback : ∀ t, w.spans t = v.spans t := fun t => (hsame t).symm
  have hstart : v.start = w.start :=
    TimeOfDay.eq_of_not_before
      (start_not_before_of_short hw (TimeOfDay.ne_of_before hv) hback)
      (start_not_before_of_short hv (TimeOfDay.ne_of_before hw) hsame)
  have hstop : v.stop = w.stop :=
    TimeOfDay.eq_of_not_before (stop_not_before_of_short hv hw hstart hsame)
      (stop_not_before_of_short hw hv hstart.symm hback)
  exact ⟨hstart, hstop⟩

/-- A window that runs past midnight is open later than one that does not. -/
theorem spans_ne_of_short_long (hv : v.start.before v.stop = true)
    (hw : w.stop.before w.start = true) : ∃ t, v.spans t ≠ w.spans t := by
  cases hlate : v.stop.before w.start with
  | true =>
      refine ⟨w.start, ?_⟩
      rw [spans_start (TimeOfDay.ne_of_before hw).symm, spans_short hv,
        TimeOfDay.not_before_of_before hlate, Bool.and_false]
      exact Bool.false_ne_true
  | false =>
      refine ⟨v.stop, ?_⟩
      rw [spans_long hw, hlate, spans_short hv, TimeOfDay.before_irrefl, Bool.and_false]
      exact Bool.false_ne_true

/-- **Windows that are open at the same times have the same ends.** -/
theorem ends_of_spans (hv : v.start ≠ v.stop) (hw : w.start ≠ w.stop)
    (hsame : ∀ t, v.spans t = w.spans t) : v.start = w.start ∧ v.stop = w.stop := by
  cases hvshort : v.start.before v.stop with
  | true =>
      cases hwshort : w.start.before w.stop with
      | true => exact ends_of_spans_short hvshort hwshort hsame
      | false =>
          obtain ⟨t, hne⟩ := spans_ne_of_short_long hvshort (TimeOfDay.before_of_not hw hwshort)
          exact absurd (hsame t) hne
  | false =>
      have hvlong := TimeOfDay.before_of_not hv hvshort
      cases hwshort : w.start.before w.stop with
      | true =>
          obtain ⟨t, hne⟩ := spans_ne_of_short_long hwshort hvlong
          exact absurd (hsame t).symm hne
      | false =>
          -- past midnight both are shut at the same times, from their ends to their starts
          have hshut : ∀ t, v.swapped.spans t = w.swapped.spans t := fun t => by
            rw [spans_swapped hv, spans_swapped hw, hsame]
          exact (ends_of_spans_short (v := v.swapped) (w := w.swapped) hvlong
            (TimeOfDay.before_of_not hw hwshort) hshut).symm

/-- Where some day is allowed, a window is open when it covers the time of some day. -/
theorem exists_covers_iff (h : w.days ≠ some []) (t : TimeOfDay) :
    (∃ d, w.covers d t = true) ↔ w.spans t = true := by
  constructor
  · rintro ⟨d, hd⟩
    rw [covers_eq, Bool.and_eq_true] at hd
    exact hd.1
  · intro hopen
    obtain ⟨d, hd⟩ := exists_allowed h
    obtain ⟨e, he⟩ : ∃ e, w.dayOf e t = d := by
      unfold dayOf
      split
      · exact d.exists_pred
      · exact ⟨d, rfl⟩
    exact ⟨e, by rw [covers_eq, hopen, he, hd, Bool.and_true]⟩

/-- **Every change of an end shows**: windows of one zone and the same days that contain the same
    instants, and any at all, have the same ends. -/
theorem ends_of_contains [Zones.Steady] (hzone : v.zone = w.zone) (hdays : v.days = w.days)
    (hw : w.Sound) {tenant : Zone}
    (hsame : ∀ now : Instant, now.inRange = true → v.contains tenant now = w.contains tenant now) :
    v.start = w.start ∧ v.stop = w.stop := by
  have hcovers : ∀ d t, v.covers d t = w.covers d t := by
    intro d t
    obtain ⟨now, hrange, hd, ht⟩ := Instant.exists_local (w.zone.getD tenant) d t
    have hnow := hsame now hrange
    unfold contains at hnow
    rw [hzone] at hnow
    simp only [hd, ht] at hnow
    exact hnow
  have hspans : ∀ t, v.spans t = w.spans t := by
    intro t
    rw [Bool.eq_iff_iff, ← exists_covers_iff hw.days, ← exists_covers_iff (hdays ▸ hw.days)]
    exact exists_congr fun d => by rw [hcovers]
  obtain ⟨d, hd⟩ := hw.covers_start
  have hv : v.Sound := sound_of_covers ((hcovers d w.start).trans hd)
  exact ends_of_spans hv.length hw.length hspans

/-! ## 4. Windows that are read again -/

/-- The window from the minute in which it starts to the minute in which it ends. -/
def onMinutes (w : Window) : Window := { w with start := w.start.minute, stop := w.stop.minute }

theorem onMinutes_eq_self (h : w.FullMinutes) : w.onMinutes = w := by
  unfold onMinutes
  rw [TimeOfDay.minute_eq_self_iff.mpr h.1, TimeOfDay.minute_eq_self_iff.mpr h.2]

theorem Sound.of_onMinutes (h : w.onMinutes.Sound) : w.Sound :=
  ⟨fun hends => h.length (congrArg TimeOfDay.minute hends), h.days⟩

/-- **What is read for a window that was written is the window on full minutes.** -/
theorem reads_onMinutes [Zones.Named] (w : Window) : Window.decode.Reads w.toJson w.onMinutes := by
  have hwritten : w.onMinutes.toJson = w.toJson := by
    unfold toJson onMinutes
    simp only [TimeOfDay.write_minute]
  rw [← hwritten]
  exact reads_toJson ⟨w.start.fullMinute_minute, w.stop.fullMinute_minute⟩

/-- It contains the same instants where the ends were full minutes, or where there were none. -/
theorem contains_onMinutes (hfull : w.Sound → w.FullMinutes) (tenant : Zone) (now : Instant) :
    w.onMinutes.contains tenant now = w.contains tenant now := by
  by_cases hsound : w.Sound
  · rw [onMinutes_eq_self (hfull hsound)]
  · rw [contains_of_not_sound hsound, contains_of_not_sound fun h => hsound h.of_onMinutes]

/-- And only there. -/
theorem fullMinutes_of_contains [Zones.Steady] {tenant : Zone}
    (hsame : ∀ now : Instant, now.inRange = true →
      w.onMinutes.contains tenant now = w.contains tenant now) (hsound : w.Sound) :
    w.FullMinutes := by
  obtain ⟨hstart, hstop⟩ := ends_of_contains (v := w.onMinutes) (w := w) rfl rfl hsound hsame
  exact ⟨TimeOfDay.minute_eq_self_iff.mp hstart, TimeOfDay.minute_eq_self_iff.mp hstop⟩

/-- The same is found wrong with it unless it had a length and lay within a minute. -/
theorem findings_onMinutes_iff (w : Window) :
    (∀ source i, w.onMinutes.findings source i = w.findings source i) ↔
      (w.start.minute = w.stop.minute → w.start = w.stop) := by
  have hone : ∀ source i, w.onMinutes.findings source i = w.findings source i ↔
      (w.start.minute = w.stop.minute ↔ w.start = w.stop) := by
    intro source i
    unfold findings onMinutes
    simp only [TimeOfDay.write_minute]
    rw [List.append_left_inj, findIf_inj, decide_eq_decide]
  simp only [hone, forall_const]
  exact ⟨Iff.mp, fun h => ⟨h, congrArg TimeOfDay.minute⟩⟩

/-- **Of what is written and read again the full minutes survive.** The time that a text spells comes
    back as the beginning of its minute, so it survives where it is a full minute, as it is when the
    text has no seconds. Where zones are found under their names a window comes back with both its
    ends on the minute. It contains the same instants for every tenant where its ends were full
    minutes or it contained none, and, as no zone is changed every week, nowhere else. The same is
    found wrong with it exactly where it did not lie within a minute, or had no length. -/
theorem reread_on_minutes (w : Window) :
    (∀ s t, TimeOfDay.read? s = some t →
      TimeOfDay.read? t.write = some t.minute ∧
      (TimeOfDay.read? t.write = some t ↔ t.FullMinute) ∧
      (s.toList.count ':' ≤ 1 → TimeOfDay.read? t.write = some t)) ∧
    (Zones.Named → Window.decode.Reads w.toJson w.onMinutes) ∧
    ((w.Sound → w.FullMinutes) →
      ∀ tenant now, w.onMinutes.contains tenant now = w.contains tenant now) ∧
    (Zones.Steady → ∀ tenant, (∀ now : Instant, now.inRange = true →
      w.onMinutes.contains tenant now = w.contains tenant now) → w.Sound → w.FullMinutes) ∧
    ((∀ source i, w.onMinutes.findings source i = w.findings source i) ↔
      (w.start.minute = w.stop.minute → w.start = w.stop)) := by
  refine ⟨fun s t ht => ⟨t.read?_write_eq, t.read?_write_iff, fun hcolons => ?_⟩,
    fun _ => w.reads_onMinutes, contains_onMinutes, fun _ _ => fullMinutes_of_contains,
    w.findings_onMinutes_iff⟩
  exact t.read?_write_iff.mpr (TimeOfDay.fullMinute_of_read? ht hcolons)

end Minutes

/-- A window from half past eight survives, its start given with one digit for the hour. One that
    starts fifteen seconds later does not: some instant is in one of the two windows only. -/
theorem reread_on_minutes_morning :
    let w : Window := ⟨none, ⟨30600, 0, by decide⟩, ⟨36000, 0, by decide⟩, none⟩
    let late : Window := { w with start := ⟨30615, 0, by decide⟩ }
    TimeOfDay.read? " 8:30" = some w.start ∧ TimeOfDay.read? w.start.write = some w.start ∧
      Zones.Named ∧ Window.decode.Reads w.toJson w.onMinutes ∧
      (∀ tenant now, w.onMinutes.contains tenant now = w.contains tenant now) ∧
      Zones.Steady ∧ late.Sound ∧ ∀ tenant, ¬ ∀ now : Instant, now.inRange = true →
        late.onMinutes.contains tenant now = late.contains tenant now := by
  intro w late
  have hread : TimeOfDay.read? " 8:30" = some w.start := by decide +kernel
  have hlate : late.Sound := ⟨by decide, nofun⟩
  obtain ⟨htimes, hback, hsame, -⟩ := reread_on_minutes w
  obtain ⟨-, -, -, hmoved, -⟩ := reread_on_minutes late
  refine ⟨hread, (htimes " 8:30" w.start hread).2.2 (by decide), ListedZone.named,
    hback ListedZone.named, hsame fun _ => ⟨⟨by decide, rfl⟩, by decide, rfl⟩, ListedZone.steady,
    hlate, fun tenant hall => ?_⟩
  exact absurd (hmoved ListedZone.steady tenant hall hlate).1.1 (by decide)

/-- **Seconds are lost**: a window of half a minute is open, and nothing is found wrong with it. What
    comes back has no length: it is never open, and this is found wrong. -/
theorem half_minute_lost :
    let w : Window := ⟨none, ⟨30615, 0, by decide⟩, ⟨30645, 0, by decide⟩, none⟩
    let reread : Window := ⟨none, ⟨30600, 0, by decide⟩, ⟨30600, 0, by decide⟩, none⟩
    TimeOfDay.read? "08:30:15" = some w.start ∧ w.start.write = "08:30" ∧
      TimeOfDay.read? w.start.write ≠ some w.start ∧
      Window.decode (.ofJson w.toJson) = .ok reread ∧
      w.contains .utc ⟨1714552220, 0⟩ = true ∧ w.findings "rule" 0 = [] ∧
      (∀ tenant now, reread.contains tenant now = false) ∧ reread.findings "rule" 0 ≠ [] := by
  intro w reread
  have hread : Window.decode (.ofJson w.toJson) = .ok w.onMinutes := w.reads_onMinutes.ofJson
  have hminutes : w.onMinutes = reread := by decide
  have hshut : ¬ reread.Sound := fun h => h.length rfl
  refine ⟨by decide +kernel, by decide +kernel, by decide +kernel, hminutes ▸ hread,
    by decide +kernel, by decide +kernel, contains_of_not_sound hshut, ?_⟩
  exact fun hnone => hshut ((findings_eq_nil_iff "rule" 0 reread).mp hnone)

end Window

end LeadRouting
