import LeadRouting.Proofs.SoundRules

/-!
# The fault that is named

A request from outside may have many faults, and one is named. This file says which: the first in a
fixed order, and of the agents that are listed again the one at the first place that repeats an
earlier one. A request without a fault has no agent twice, which a ranking relies on.

* `RepeatsAt ids n` -- the place `n` of a list holds what an earlier place holds;
  `firstRepeated?_eq_some_iff`: what is found is at the first such place;
* `Number.InUnit` -- a number from zero to one; a value that is not a number is none;
* `LeadRequest.Sound` -- the SPECIFICATION of a request without a fault, `LeadRequest.FirstFault` that
  of the fault to be named, one rule for each thing that is asked;
* **`LeadRequest.fault?_names_first`** -- nothing is named exactly where the request is sound, and
  what is named is the first fault.
-/

namespace LeadRouting

/-! ## 1. Ids that are listed again -/

/-- The place holds what an earlier place holds. -/
def RepeatsAt (ids : List String) (n : Nat) : Prop :=
  ∃ m < n, ∃ id, ids[m]? = some id ∧ ids[n]? = some id

/-- The place holds one of the `seen` texts, or what an earlier place holds. -/
def RepeatsBehind (seen ids : List String) (n : Nat) : Prop :=
  (∃ id ∈ seen, ids[n]? = some id) ∨ RepeatsAt ids n

section Repeats

variable {seen ids rest : List String} {id : String} {n : Nat}

theorem repeatsBehind_nil : RepeatsBehind [] ids n ↔ RepeatsAt ids n :=
  or_iff_right fun ⟨_, hmem, _⟩ => absurd hmem List.not_mem_nil

theorem repeatsBehind_zero : RepeatsBehind seen (id :: rest) 0 ↔ id ∈ seen := by
  constructor
  · rintro (⟨_, hmem, ⟨⟩⟩ | ⟨m, hm, -⟩)
    · exact hmem
    · exact absurd hm (Nat.not_lt_zero m)
  · exact fun hmem => .inl ⟨id, hmem, rfl⟩

/-- Behind the first place it is as if the first text had been seen before. -/
theorem repeatsBehind_succ :
    RepeatsBehind seen (id :: rest) (n + 1) ↔ RepeatsBehind (id :: seen) rest n := by
  constructor
  · rintro (⟨x, hmem, hat⟩ | ⟨m, hm, x, hearlier, hat⟩)
    · exact .inl ⟨x, List.mem_cons_of_mem id hmem, hat⟩
    · cases m with
      | zero =>
          obtain rfl : id = x := Option.some.inj hearlier
          exact .inl ⟨id, List.mem_cons_self, hat⟩
      | succ m => exact .inr ⟨m, Nat.lt_of_succ_lt_succ hm, x, hearlier, hat⟩
  · rintro (⟨x, hmem, hat⟩ | ⟨m, hm, x, hearlier, hat⟩)
    · rcases List.mem_cons.mp hmem with rfl | hmem
      · exact .inr ⟨0, Nat.succ_pos n, x, rfl, hat⟩
      · exact .inl ⟨x, hmem, hat⟩
    · exact .inr ⟨m + 1, Nat.succ_lt_succ hm, x, hearlier, hat⟩

end Repeats

namespace LeadRequest

/-- **What is found is at the first place that repeats an earlier one**, or one of the `seen`
    texts. -/
theorem firstRepeated?_eq_some_iff (seen ids : List String) (id : String) :
    firstRepeated? seen ids = some id ↔
      ∃ n, ids[n]? = some id ∧ RepeatsBehind seen ids n ∧ ∀ m < n, ¬ RepeatsBehind seen ids m := by
  induction ids generalizing seen with
  | nil => exact iff_of_false nofun fun ⟨_, hat, _⟩ => nomatch hat
  | cons x rest ih =>
      unfold firstRepeated?
      by_cases hx : x ∈ seen
      · -- the first place repeats already, so no other place is the first to do so
        rw [if_pos (List.contains_iff_mem.mpr hx)]
        constructor
        · rintro ⟨⟩
          exact ⟨0, rfl, repeatsBehind_zero.mpr hx, fun m hm => absurd hm (Nat.not_lt_zero m)⟩
        · rintro ⟨n, hat, -, hfirst⟩
          cases n with
          | zero => exact hat
          | succ n => exact absurd (repeatsBehind_zero.mpr hx) (hfirst 0 (Nat.succ_pos n))
      · rw [if_neg (mt List.contains_iff_mem.mp hx), ih]
        constructor
        · rintro ⟨n, hat, hrepeats, hfirst⟩
          refine ⟨n + 1, hat, repeatsBehind_succ.mpr hrepeats, fun m hm => ?_⟩
          cases m with
          | zero => exact mt repeatsBehind_zero.mp hx
          | succ m => exact mt repeatsBehind_succ.mp (hfirst m (Nat.lt_of_succ_lt_succ hm))
        · rintro ⟨n, hat, hrepeats, hfirst⟩
          cases n with
          | zero => exact absurd (repeatsBehind_zero.mp hrepeats) hx
          | succ n =>
              exact ⟨n, hat, repeatsBehind_succ.mp hrepeats, fun m hm =>
                mt repeatsBehind_succ.mpr (hfirst (m + 1) (Nat.succ_lt_succ hm))⟩

end LeadRequest

/-! ## 2. The unit interval -/

namespace Number

/-- The value is a number, and lies from zero to one. -/
structure InUnit (x : Float) : Prop where
  number : notANumber x = false
  low : 0 ≤ place x
  high : place x ≤ place 1.0

theorem inUnit_iff (x : Float) : inUnit x = true ↔ InUnit x := by
  have hzero : place? 0.0 = some 0 := by decide +kernel
  have hone : place? 1.0 = some (place 1.0) := by decide +kernel
  unfold inUnit
  rw [Bool.and_eq_true, le_eq_true_iff, le_eq_true_iff, hzero, hone]
  constructor
  · rintro ⟨⟨_, b, ⟨⟩, hb, hlow⟩, a, _, ha, ⟨⟩, hhigh⟩
    obtain rfl : b = a := Option.some.inj (hb.symm.trans ha)
    unfold place? at hb
    split at hb
    · cases hb
    · rename_i hnumber
      obtain rfl : place x = b := Option.some.inj hb
      exact ⟨Bool.eq_false_iff.mpr hnumber, hlow, hhigh⟩
  · rintro ⟨hnumber, hlow, hhigh⟩
    have hplace : place? x = some (place x) := by
      unfold place?
      rw [if_neg (by rw [hnumber]; exact Bool.false_ne_true)]
    exact ⟨⟨0, place x, rfl, hplace, hlow⟩, place x, place 1.0, hplace, rfl, hhigh⟩

end Number

/-! ## 3. Requests -/

namespace LeadRequest

/-- The user ids of the pool. -/
def userIds (r : LeadRequest) : List String := r.agents.map Agent.userId

/-- The request names its lead and its tenant, both importances lie in the unit interval, and no
    agent is listed twice. -/
structure Sound (r : LeadRequest) : Prop where
  leadId : Text.Filled r.leadId
  tenantId : Text.Filled r.tenantId
  geographyImportance : Number.InUnit r.geographyImportance
  priceBandImportance : Number.InUnit r.priceBandImportance
  agents : r.userIds.Nodup

/-- **The first fault of the request**: everything that is asked before is in order. -/
inductive FirstFault (r : LeadRequest) : RequestFault → Prop where
  | leadId (hlead : ¬ Text.Filled r.leadId) : FirstFault r (.emptyField "leadId")
  | tenantId (hlead : Text.Filled r.leadId) (htenant : ¬ Text.Filled r.tenantId) :
      FirstFault r (.emptyField "tenantId")
  | geographyImportance (hlead : Text.Filled r.leadId) (htenant : Text.Filled r.tenantId)
      (hgeography : ¬ Number.InUnit r.geographyImportance) :
      FirstFault r (.outsideUnit "geographyImportance" r.geographyImportance)
  | priceBandImportance (hlead : Text.Filled r.leadId) (htenant : Text.Filled r.tenantId)
      (hgeography : Number.InUnit r.geographyImportance)
      (hprice : ¬ Number.InUnit r.priceBandImportance) :
      FirstFault r (.outsideUnit "priceBandImportance" r.priceBandImportance)
  | agents (hlead : Text.Filled r.leadId) (htenant : Text.Filled r.tenantId)
      (hgeography : Number.InUnit r.geographyImportance)
      (hprice : Number.InUnit r.priceBandImportance) (n : Nat) (id : String)
      (hat : r.userIds[n]? = some id) (hrepeats : RepeatsAt r.userIds n)
      (hfirst : ∀ m < n, ¬ RepeatsAt r.userIds m) : FirstFault r (.duplicateAgent id)

section Checks

variable {field value : String} {x : Float} {fault : RequestFault}

theorem emptyFault?_eq_none_iff : emptyFault? field value = none ↔ Text.Filled value := by
  unfold emptyFault?
  rw [← Text.blank_eq_false_iff]
  cases Text.blank value <;> simp

theorem emptyFault?_eq_some_iff :
    emptyFault? field value = some fault ↔ ¬ Text.Filled value ∧ fault = .emptyField field := by
  unfold emptyFault?
  rw [← Text.blank_eq_false_iff]
  cases Text.blank value <;> simp [eq_comm]

theorem unitFault?_eq_none_iff : unitFault? field x = none ↔ Number.InUnit x := by
  unfold unitFault?
  rw [← Number.inUnit_iff]
  cases Number.inUnit x <;> simp

theorem unitFault?_eq_some_iff :
    unitFault? field x = some fault ↔ ¬ Number.InUnit x ∧ fault = .outsideUnit field x := by
  unfold unitFault?
  rw [← Number.inUnit_iff]
  cases Number.inUnit x <;> simp [eq_comm]

/-- The agent that is named is at the first place that repeats an earlier one. -/
theorem repeated_eq_some_iff {ids : List String} :
    (firstRepeated? [] ids).map RequestFault.duplicateAgent = some fault ↔
      ∃ n id, ids[n]? = some id ∧ RepeatsAt ids n ∧ (∀ m < n, ¬ RepeatsAt ids m) ∧
        fault = .duplicateAgent id := by
  rw [Option.map_eq_some_iff]
  simp only [firstRepeated?_eq_some_iff, repeatsBehind_nil]
  constructor
  · rintro ⟨id, ⟨n, hat, hrepeats, hfirst⟩, rfl⟩
    exact ⟨n, id, hat, hrepeats, hfirst, rfl⟩
  · rintro ⟨n, id, hat, hrepeats, hfirst, rfl⟩
    exact ⟨id, ⟨n, hat, hrepeats, hfirst⟩, rfl⟩

end Checks

variable {r : LeadRequest} {fault : RequestFault}

theorem fault?_eq_none_iff (r : LeadRequest) : r.fault? = none ↔ r.Sound := by
  unfold fault?
  rw [Option.or_eq_none_iff, Option.or_eq_none_iff, Option.or_eq_none_iff, Option.or_eq_none_iff,
    emptyFault?_eq_none_iff, emptyFault?_eq_none_iff, unitFault?_eq_none_iff,
    unitFault?_eq_none_iff, Option.map_eq_none_iff, firstRepeated?_eq_none_iff,
    and_iff_left fun _ _ => List.not_mem_nil]
  constructor
  · rintro ⟨⟨⟨⟨hlead, htenant⟩, hgeography⟩, hprice⟩, hagents⟩
    exact ⟨hlead, htenant, hgeography, hprice, hagents⟩
  · rintro ⟨hlead, htenant, hgeography, hprice, hagents⟩
    exact ⟨⟨⟨⟨hlead, htenant⟩, hgeography⟩, hprice⟩, hagents⟩

theorem fault?_eq_some_iff (r : LeadRequest) (fault : RequestFault) :
    r.fault? = some fault ↔ r.FirstFault fault := by
  unfold fault?
  simp only [Option.or_eq_some_iff, Option.or_eq_none_iff, emptyFault?_eq_none_iff,
    emptyFault?_eq_some_iff, unitFault?_eq_none_iff, unitFault?_eq_some_iff, repeated_eq_some_iff]
  constructor
  · rintro ((((⟨hlead, rfl⟩ | ⟨hlead, htenant, rfl⟩) | ⟨⟨hlead, htenant⟩, hgeography, rfl⟩) |
      ⟨⟨⟨hlead, htenant⟩, hgeography⟩, hprice, rfl⟩) |
      ⟨⟨⟨⟨hlead, htenant⟩, hgeography⟩, hprice⟩, n, id, hat, hrepeats, hfirst, rfl⟩)
    · exact .leadId hlead
    · exact .tenantId hlead htenant
    · exact .geographyImportance hlead htenant hgeography
    · exact .priceBandImportance hlead htenant hgeography hprice
    · exact .agents hlead htenant hgeography hprice n id hat hrepeats hfirst
  · intro h
    cases h with
    | leadId hlead => exact .inl (.inl (.inl (.inl ⟨hlead, rfl⟩)))
    | tenantId hlead htenant => exact .inl (.inl (.inl (.inr ⟨hlead, htenant, rfl⟩)))
    | geographyImportance hlead htenant hgeography =>
        exact .inl (.inl (.inr ⟨⟨hlead, htenant⟩, hgeography, rfl⟩))
    | priceBandImportance hlead htenant hgeography hprice =>
        exact .inl (.inr ⟨⟨⟨hlead, htenant⟩, hgeography⟩, hprice, rfl⟩)
    | agents hlead htenant hgeography hprice n id hat hrepeats hfirst =>
        exact .inr ⟨⟨⟨⟨hlead, htenant⟩, hgeography⟩, hprice⟩, n, id, hat, hrepeats, hfirst, rfl⟩

/-- **The first fault is named.** Nothing is named exactly where the lead and the tenant have a
    character that is no blank, both importances are numbers from zero to one, and no agent is listed
    twice. Otherwise the fault that is named is that of the first of these that fails, in this order,
    and of agents that are listed again the id at the first place that repeats an earlier one. -/
theorem fault?_names_first (r : LeadRequest) :
    (r.fault? = none ↔ r.Sound) ∧ ∀ fault, r.fault? = some fault ↔ r.FirstFault fault :=
  ⟨fault?_eq_none_iff r, fault?_eq_some_iff r⟩

example : firstRepeated? [] ["ann", "bob", "cy", "bob", "ann"] = some "bob" := by decide

end LeadRequest

end LeadRouting
