import Mathlib.Logic.Basic
import LeadRouting.Rule.Finding

/-!
# Sound rule sets

Some twenty checks decide whether a rule set may be used. They are nested and have ways out: a rule
without an id is not looked at further, a rule without targets has none to be checked, a test for
presence has a value that nobody looks at. This file says what a set without serious findings IS,
without a word on findings, and that the checks come to exactly that.

* `RuleSet.Sound` -- the SPECIFICATION, down to the single bound: `Target.Sound`,
  `PriceBand.Sound`, `Window.Sound`, `FieldTest.Sound`, `Policy.Sound`, ...;
* `Harmless` -- nothing in a list of findings is serious;
* `Target.harmless_iff`, `PriceBand.harmless_iff`, ... -- the findings on a part are harmless exactly
  where the part is sound;
* **`RuleSet.harmless_iff`** -- and so it is with the whole set, from every source.
-/

namespace LeadRouting

/-! ## 1. What a rule set has to be -/

/-- The text has a character that is no blank. -/
def Text.Filled (s : String) : Prop := ∃ c ∈ s.toList, isBlank c = false

/-- The target names somebody, and no name in it is blank. -/
def Target.Sound : Target → Prop
  | .agents ids => ids ≠ [] ∧ ∀ id ∈ ids, Text.Filled id
  | .team id _ => Text.Filled id
  | .pond id => Text.Filled id

/-- The bounds are in order, and none is negative. -/
structure PriceBand.Sound (b : PriceBand) : Prop where
  ordered : ∀ min ∈ b.min, ∀ max ∈ b.max, Number.lt max min = false
  min : ∀ x ∈ b.min, Number.lt x 0.0 = false
  max : ∀ x ∈ b.max, Number.lt x 0.0 = false

/-- No source is wanted and unwanted, but for the case of its letters. -/
def SourceFilter.Sound (f : SourceFilter) : Prop :=
  ∀ s ∈ f.included, ∀ e ∈ f.excluded, Text.alikeLetters e s = false

/-- The window has a length, and the days that it lists are some. -/
structure Window.Sound [Zones] (w : Window) : Prop where
  length : w.start ≠ w.stop
  days : w.days ≠ some []

/-- The bounds of the age are in order. -/
def Demographics.Sound (d : Demographics) : Prop :=
  ∀ min ∈ d.minAge, ∀ max ∈ d.maxAge, min ≤ max

/-- The value is a number or a text that spells one. -/
inductive Json.Numeric : Json → Prop where
  | int (n : Int) : Numeric (.int n)
  | float (x : Float) : Numeric (.float x)
  | text (s : String) (x : Float) (hread : Number.read? (Text.trim s) = some x) :
      Numeric (.text s)

/-- The operator can compare a field with the value. -/
def Operator.Takes (v : Json) : Operator → Prop
  | .present | .absent => True
  | .among | .notAmong => ∃ items, v = .list items
  | .above | .atLeast | .below | .atMost => v.Numeric
  | .equals | .notEquals | .contains | .lacks => v ≠ .null

/-- The test has a field to look at, and a value that its operator takes. -/
structure FieldTest.Sound (t : FieldTest) : Prop where
  key : Text.Filled t.key
  value : t.operator.Takes t.value

/-- The weights lie in the unit interval, and the floor is finite and not negative. -/
structure Policy.Sound (p : Policy) : Prop where
  weights : ∀ w ∈ [p.performance, p.capacity, p.geography, p.priceBand],
    Number.le 0.0 w = true ∧ Number.le w 1.0 = true
  finite : Number.finite p.floor = true
  floor : Number.lt p.floor 0.0 = false

/-- All categories that are there are sound. -/
structure Conditions.Sound [Zones] (c : Conditions) : Prop where
  priceBand : ∀ b ∈ c.priceBand, b.Sound
  sources : ∀ f ∈ c.sources, f.Sound
  windows : ∀ ws ∈ c.windows, ws ≠ [] ∧ ∀ w ∈ ws, w.Sound
  demographics : ∀ d ∈ c.demographics, d.Sound
  customFields : ∀ ts ∈ c.customFields, ∀ t ∈ ts, t.Sound

/-- The rule has an id and targets, and all that it says is sound. -/
structure Rule.Sound [Zones] (r : Rule) : Prop where
  id : Text.Filled r.id
  targets_ne : r.targets ≠ []
  targets : ∀ t ∈ r.targets, t.Sound
  conditions : ∀ c ∈ r.conditions, c.Sound
  policy : ∀ p ∈ r.policy, p.Sound
  fallbackTeamId : ∀ id ∈ r.fallbackTeamId, Text.Filled id

/-- **Every rule of the set is sound, and no two have one id.** -/
structure RuleSet.Sound [Zones] (s : RuleSet) : Prop where
  rules : ∀ r ∈ s.rules, r.Sound
  nodup : (s.rules.map Rule.id).Nodup

/-! ## 2. Findings that are not serious -/

/-- Nothing in the list keeps a set from being used. -/
def Harmless (fs : List Finding) : Prop := ∀ f ∈ fs, f.serious = false

@[simp] theorem harmless_append (fs gs : List Finding) :
    Harmless (fs ++ gs) ↔ Harmless fs ∧ Harmless gs := List.forall_mem_append

@[simp] theorem harmless_findIf_warning (wrong : Bool) (source field message : String) :
    Harmless (findIf wrong (.warning source field message)) := by
  intro f hf
  obtain ⟨-, rfl⟩ := mem_findIf.mp hf
  rfl

@[simp] theorem harmless_findIf {wrong : Bool} {f : Finding} (hf : f.serious = true) :
    Harmless (findIf wrong f) ↔ wrong = false := by
  cases wrong with
  | false => exact iff_of_true nofun rfl
  | true => exact iff_of_false (fun h => by simp [h f (by simp)] at hf) nofun

/-- A reason that is reported as something serious must not be there. -/
theorem harmless_map {f : String → Finding} (hf : ∀ s, (f s).serious = true)
    (reason : Option String) : Harmless (reason.map f).toList ↔ reason = none := by
  cases reason with
  | none => exact iff_of_true nofun rfl
  | some s => exact iff_of_false (fun h => by simpa [hf] using h (f s)) nofun

theorem harmless_flatMap {α : Type} (f : α → List Finding) (xs : List α) :
    Harmless (xs.flatMap f) ↔ ∀ x ∈ xs, Harmless (f x) := List.forall_mem_flatMap

/-- The places of the entries do not matter where they only name what is wrong. -/
theorem forall_mem_flatMap_zipIdx {α : Type} {f : α → Nat → List Finding} {P : Finding → Prop}
    {Q : α → Prop} (h : ∀ x i, (∀ g ∈ f x i, P g) ↔ Q x) (xs : List α) :
    (∀ g ∈ xs.zipIdx.flatMap fun (x, i) => f x i, P g) ↔ ∀ x ∈ xs, Q x := by
  have hfrom : ∀ n, (∀ g ∈ (xs.zipIdx n).flatMap fun (x, i) => f x i, P g) ↔ ∀ x ∈ xs, Q x := by
    induction xs with
    | nil => exact fun _ => iff_of_true nofun nofun
    | cons x rest ih =>
        intro n
        rw [List.zipIdx_cons, List.flatMap_cons, List.forall_mem_append, h, ih,
          List.forall_mem_cons]
  exact hfrom 0

theorem harmless_findIn {α : Type} (f : α → List Finding) (a : Option α) :
    Harmless (findIn f a) ↔ ∀ x ∈ a, Harmless (f x) := by
  cases a with
  | none => exact iff_of_true nofun nofun
  | some x => simp [findIn]

/-! ## 3. The parts of a rule -/

theorem Text.blank_eq_false_iff (s : String) : blank s = false ↔ Filled s := by
  unfold blank Filled
  simp only [List.all_eq_false, Bool.not_eq_true]

section Parts

variable (source : String)

theorem Target.harmless_iff (t : Target) (i : Nat) :
    Harmless (t.findings source i) ↔ t.Sound := by
  cases t with
  | agents ids =>
      unfold findings
      rw [harmless_append, harmless_findIf rfl, harmless_findIf rfl, List.isEmpty_eq_false_iff,
        List.any_eq_false]
      refine and_congr_right fun _ => forall₂_congr fun id _ => ?_
      rw [Bool.not_eq_true, Text.blank_eq_false_iff]
  | team id strategy =>
      unfold findings
      rw [harmless_findIf rfl, Text.blank_eq_false_iff]
      rfl
  | pond id =>
      unfold findings
      rw [harmless_append, harmless_findIf rfl, Text.blank_eq_false_iff]
      exact and_iff_left (harmless_findIf_warning _ _ _ _)

theorem Target.harmless_listFindings_iff (targets : List Target) :
    Harmless (listFindings source targets) ↔ targets ≠ [] ∧ ∀ t ∈ targets, t.Sound := by
  cases targets with
  | nil => exact iff_of_false (fun h => by cases h _ List.mem_cons_self) fun h => h.1 rfl
  | cons t rest =>
      unfold listFindings
      rw [List.isEmpty_cons, if_neg Bool.false_ne_true, harmless_append, Harmless,
        forall_mem_flatMap_zipIdx (harmless_iff source),
        and_iff_left (harmless_findIf_warning _ _ _ _)]
      exact (and_iff_right (List.cons_ne_nil t rest)).symm

theorem Geography.harmless (g : Geography) : Harmless (g.findings source) :=
  harmless_findIf_warning _ _ _ _

theorem PriceBand.inverted?_eq_none_iff (b : PriceBand) :
    b.inverted? = none ↔ ∀ min ∈ b.min, ∀ max ∈ b.max, Number.lt max min = false := by
  unfold inverted?
  cases b.min with
  | none => exact iff_of_true rfl nofun
  | some min =>
      cases b.max with
      | none => exact iff_of_true rfl nofun
      | some max => simp

theorem PriceBand.harmless_iff (b : PriceBand) : Harmless (b.findings source) ↔ b.Sound := by
  have hnegative : ∀ a : Option Float, a.any (fun x => Number.lt x 0.0) = false ↔
      ∀ x ∈ a, Number.lt x 0.0 = false := by
    intro a
    cases a <;> simp
  unfold findings
  rw [harmless_append, harmless_append, harmless_map (fun _ => rfl), harmless_findIf rfl,
    and_iff_left (harmless_findIf_warning _ _ _ _), inverted?_eq_none_iff, Bool.or_eq_false_iff,
    hnegative, hnegative]
  constructor
  · rintro ⟨hordered, hmin, hmax⟩
    exact ⟨hordered, hmin, hmax⟩
  · rintro ⟨hordered, hmin, hmax⟩
    exact ⟨hordered, hmin, hmax⟩

theorem SourceFilter.harmless_iff (f : SourceFilter) :
    Harmless (f.findings source) ↔ f.Sound := by
  unfold findings overlap? Sound
  rw [harmless_map fun _ => rfl, List.find?_eq_none]
  refine forall₂_congr fun s _ => ?_
  rw [Bool.not_eq_true, List.any_eq_false]
  exact forall₂_congr fun e _ => iff_of_eq (Bool.not_eq_true _)

theorem Window.harmless_iff [Zones] (w : Window) (i : Nat) :
    Harmless (w.findings source i) ↔ w.Sound := by
  have hdays : w.days.any List.isEmpty = false ↔ w.days ≠ some [] := by
    cases w.days with
    | none => exact iff_of_true rfl nofun
    | some days => simp
  unfold findings
  rw [harmless_append, harmless_findIf rfl, harmless_findIf rfl, decide_eq_false_iff_not, hdays]
  constructor
  · rintro ⟨hlength, hdays⟩
    exact ⟨hlength, hdays⟩
  · rintro ⟨hlength, hdays⟩
    exact ⟨hlength, hdays⟩

theorem Window.harmless_listFindings_iff [Zones] (ws : List Window) :
    Harmless (listFindings source ws) ↔ ws ≠ [] ∧ ∀ w ∈ ws, w.Sound := by
  unfold listFindings
  rw [harmless_append, harmless_findIf rfl, List.isEmpty_eq_false_iff,
    Harmless, forall_mem_flatMap_zipIdx (harmless_iff source)]

theorem Demographics.inverted?_eq_none_iff (d : Demographics) : d.inverted? = none ↔ d.Sound := by
  unfold inverted? Sound
  cases d.minAge with
  | none => exact iff_of_true rfl nofun
  | some min =>
      cases d.maxAge with
      | none => exact iff_of_true rfl nofun
      | some max => simp

theorem Demographics.harmless_iff (d : Demographics) :
    Harmless (d.findings source) ↔ d.Sound := by
  unfold findings MemberFilter.findings
  rw [harmless_append, harmless_append, harmless_append, harmless_map (fun _ => rfl),
    inverted?_eq_none_iff]
  simp only [harmless_findIf_warning, and_true]

theorem FieldTest.numericValue_iff (v : Json) : numericValue v = true ↔ v.Numeric := by
  cases v with
  | list items | record fields => exact iff_of_false nofun nofun
  | scalar s =>
      cases s with
      | null | bool b => exact iff_of_false nofun nofun
      | int n => exact iff_of_true rfl (.int n)
      | float x => exact iff_of_true rfl (.float x)
      | text s =>
          show (Number.read? (Text.trim s)).isSome = true ↔ _
          rw [Option.isSome_iff_exists]
          constructor
          · rintro ⟨x, hx⟩
            exact .text s x hx
          · intro h
            cases h with
            | text _ x hx => exact ⟨x, hx⟩

theorem FieldTest.listValue_iff (v : Json) : listValue v = true ↔ ∃ items, v = .list items := by
  cases v with
  | list items => exact iff_of_true rfl ⟨items, rfl⟩
  | scalar s | record fields => exact iff_of_false nofun nofun

theorem FieldTest.nullValue_eq_false_iff (v : Json) : nullValue v = false ↔ v ≠ .null := by
  cases v with
  | list items | record fields => exact iff_of_true rfl nofun
  | scalar s =>
      cases s with
      | null => exact iff_of_false nofun fun h => h rfl
      | bool | int | float | text => exact iff_of_true rfl nofun

/-- The checks of a value that is looked at. -/
theorem FieldTest.harmless_valueFindings_of_looked {t : FieldTest} (i : Nat)
    (h : t.operator.asksPresence = false) :
    Harmless (t.valueFindings source i) ↔
      (t.operator.takesList = true → ∃ items, t.value = .list items) ∧
        (t.operator.numeric = true → t.value.Numeric) ∧ t.value ≠ .null := by
  have hguarded : ∀ a b : Bool, (a && !b) = false ↔ (a = true → b = true) := by decide
  unfold valueFindings
  rw [if_neg (by rw [h]; exact Bool.false_ne_true), harmless_append, harmless_append,
    harmless_findIf rfl, harmless_findIf rfl, harmless_findIf rfl, hguarded, hguarded,
    listValue_iff, numericValue_iff, nullValue_eq_false_iff, and_assoc]

/-- **A value is in order exactly where its operator takes it.** -/
theorem FieldTest.harmless_valueFindings_iff (t : FieldTest) (i : Nat) :
    Harmless (t.valueFindings source i) ↔ t.operator.Takes t.value := by
  obtain ⟨key, op, value⟩ := t
  cases op with
  | present | absent => exact iff_of_true (harmless_findIf_warning _ _ _ _) trivial
  | among | notAmong =>
      refine (harmless_valueFindings_of_looked source i rfl).trans
        ⟨fun h => h.1 rfl, fun h => ⟨fun _ => h, nofun, ?_⟩⟩
      obtain ⟨items, rfl⟩ := h
      exact nofun
  | above | atLeast | below | atMost =>
      refine (harmless_valueFindings_of_looked source i rfl).trans
        ⟨fun h => h.2.1 rfl, fun h => ⟨nofun, fun _ => h, ?_⟩⟩
      rintro rfl
      cases h
  | equals | notEquals | contains | lacks =>
      exact (harmless_valueFindings_of_looked source i rfl).trans
        ⟨fun h => h.2.2, fun h => ⟨nofun, nofun, h⟩⟩

theorem FieldTest.harmless_iff (t : FieldTest) (i : Nat) :
    Harmless (t.findings source i) ↔ t.Sound := by
  unfold findings
  rw [harmless_append, harmless_findIf rfl, Text.blank_eq_false_iff, harmless_valueFindings_iff]
  exact ⟨fun ⟨hkey, hvalue⟩ => ⟨hkey, hvalue⟩, fun h => ⟨h.key, h.value⟩⟩

theorem FieldTest.harmless_listFindings_iff (ts : List FieldTest) :
    Harmless (listFindings source ts) ↔ ∀ t ∈ ts, t.Sound :=
  forall_mem_flatMap_zipIdx (harmless_iff source) ts

theorem Policy.harmless_iff (field : String) (p : Policy) :
    Harmless (p.findings source field) ↔ p.Sound := by
  have hweights : (∀ w ∈ p.weights, Number.inUnit w.2 = true) ↔
      ∀ w ∈ [p.performance, p.capacity, p.geography, p.priceBand],
        Number.le 0.0 w = true ∧ Number.le w 1.0 = true := by
    have hvalues : [p.performance, p.capacity, p.geography, p.priceBand] =
        p.weights.map Prod.snd := rfl
    rw [hvalues, List.forall_mem_map]
    exact forall₂_congr fun w _ => Bool.and_eq_true_iff
  unfold findings
  rw [harmless_append, harmless_append, harmless_flatMap, harmless_findIf rfl,
    and_iff_left (harmless_findIf_warning _ _ _ _), Bool.or_eq_false_iff, Bool.not_eq_false']
  have hchecks : (∀ w ∈ p.weights, Harmless (findIf (!Number.inUnit w.2)
      (.error .valueOutOfRange source (field ++ "." ++ w.1)
        ("Must be between 0.0 and 1.0, got " ++ Number.Layout.message.write w.2)))) ↔
      ∀ w ∈ p.weights, Number.inUnit w.2 = true :=
    forall₂_congr fun w _ => (harmless_findIf rfl).trans (by rw [Bool.not_eq_false'])
  constructor
  · rintro ⟨hunit, hfinite, hfloor⟩
    exact ⟨hweights.mp (hchecks.mp hunit), hfinite, hfloor⟩
  · rintro ⟨hunit, hfinite, hfloor⟩
    exact ⟨hchecks.mpr (hweights.mpr hunit), hfinite, hfloor⟩

theorem Conditions.harmless_iff [Zones] (c : Conditions) :
    Harmless (c.findings source) ↔ c.Sound := by
  unfold findings
  simp only [harmless_append, harmless_findIn, Geography.harmless, PriceBand.harmless_iff,
    SourceFilter.harmless_iff, Window.harmless_listFindings_iff, Demographics.harmless_iff,
    FieldTest.harmless_listFindings_iff]
  constructor
  · rintro ⟨⟨⟨⟨⟨-, hprice⟩, hsources⟩, hwindows⟩, hdemographics⟩, hcustom⟩
    exact ⟨hprice, hsources, hwindows, hdemographics, hcustom⟩
  · rintro ⟨hprice, hsources, hwindows, hdemographics, hcustom⟩
    exact ⟨⟨⟨⟨⟨fun _ _ => trivial, hprice⟩, hsources⟩, hwindows⟩, hdemographics⟩, hcustom⟩

end Parts

/-! ## 4. Rules and sets -/

/-- A rule with an id is looked at from its targets to its policy, whatever is wrong with it. -/
theorem Rule.harmless_iff [Zones] {r : Rule} (hid : Text.Filled r.id) :
    Harmless r.findings ↔ r.Sound := by
  have hteam : r.fallbackTeamId.any Text.blank = false ↔
      ∀ id ∈ r.fallbackTeamId, Text.Filled id := by
    cases r.fallbackTeamId with
    | none => exact iff_of_true rfl nofun
    | some id => simp [Text.blank_eq_false_iff]
  unfold findings
  rw [harmless_append, harmless_append, harmless_append, Target.harmless_listFindings_iff,
    harmless_findIn, harmless_findIn, harmless_findIf rfl, hteam]
  simp only [Conditions.harmless_iff, Policy.harmless_iff]
  constructor
  · rintro ⟨⟨⟨⟨hne, htargets⟩, hconditions⟩, hpolicy⟩, hteam⟩
    exact ⟨hid, hne, htargets, hconditions, hpolicy, hteam⟩
  · rintro ⟨-, hne, htargets, hconditions, hpolicy, hteam⟩
    exact ⟨⟨⟨⟨hne, htargets⟩, hconditions⟩, hpolicy⟩, hteam⟩

/-- **A list of rules**, behind others whose ids must not be used again. -/
theorem Rule.harmless_listFindings_iff [Zones] (source : String) (seen : List String)
    (rules : List Rule) :
    Harmless (listFindings source seen rules) ↔
      (∀ r ∈ rules, r.Sound) ∧ (rules.map Rule.id).Nodup ∧ ∀ r ∈ rules, r.id ∉ seen := by
  induction rules generalizing seen with
  | nil => simp [listFindings, Harmless]
  | cons r rest ih =>
      unfold listFindings
      by_cases hid : Text.blank r.id = true
      · -- without an id the rule is not looked at, but that is serious in itself
        rw [if_pos hid]
        refine iff_of_false (fun h => by cases h _ List.mem_cons_self) ?_
        rintro ⟨hsound, -⟩
        have hfilled := (Text.blank_eq_false_iff r.id).mpr (hsound r List.mem_cons_self).id
        rw [hid] at hfilled
        cases hfilled
      · have hfilled := (Text.blank_eq_false_iff r.id).mp (Bool.eq_false_iff.mpr hid)
        have hfresh : seen.contains r.id = false ↔ r.id ∉ seen := by
          rw [List.contains_eq_mem, decide_eq_false_iff_not]
        rw [if_neg hid, harmless_append, harmless_append, harmless_findIf rfl,
          Rule.harmless_iff hfilled, ih, hfresh, List.forall_mem_cons, List.forall_mem_cons,
          List.map_cons, List.nodup_cons]
        constructor
        · rintro ⟨⟨hnew, hr⟩, hrest, hnodup, hothers⟩
          refine ⟨⟨hr, hrest⟩, ⟨?_, hnodup⟩, hnew, fun q hq hin => ?_⟩
          · intro hin
            obtain ⟨q, hq, heq⟩ := List.mem_map.mp hin
            exact hothers q hq (heq ▸ List.mem_cons_self)
          · exact hothers q hq (List.mem_cons_of_mem _ hin)
        · rintro ⟨⟨hr, hrest⟩, ⟨hid, hnodup⟩, hnew, hothers⟩
          refine ⟨⟨hnew, hr⟩, hrest, hnodup, fun q hq hin => ?_⟩
          rcases List.mem_cons.mp hin with heq | hin
          · exact hid (List.mem_map.mpr ⟨q, hq, heq⟩)
          · exact hothers q hq hin

theorem RuleSet.harmless_iff [Zones] (source : String) (s : RuleSet) :
    Harmless (s.findings source) ↔ s.Sound := by
  obtain ⟨rules⟩ := s
  unfold findings
  cases rules with
  | nil =>
      have hsound : RuleSet.Sound ⟨[]⟩ := ⟨fun _ hr => absurd hr List.not_mem_nil, List.nodup_nil⟩
      exact iff_of_true (harmless_findIf_warning true _ _ _) hsound
  | cons r rest =>
      rw [if_neg (by rw [List.isEmpty_cons]; exact Bool.false_ne_true),
        Rule.harmless_listFindings_iff]
      exact ⟨fun h => ⟨h.1, h.2.1⟩, fun h => ⟨h.rules, h.nodup, fun _ _ => List.not_mem_nil⟩⟩

end LeadRouting
