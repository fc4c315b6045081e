import LeadRouting.Proofs.SoundRules
import LeadRouting.Proofs.Warnings
import LeadRouting.Rule.Source

/-!
# Which rule sets may be used

A set may be used if its report holds nothing serious, and in a strict stage if it holds nothing at
all. This file says which sets these are.

* `RuleSet.Tidy` -- no part of the set is without effect;
* `Geography.warned_eq_false_iff`, `Target.warned_listFindings_eq_false_iff`, ... -- what there is no
  warning about; of a whole set this can be said only if it is sound (`RuleSet.warned_eq_false_iff`),
  as a rule without an id is not looked at;
* **`RuleSet.validated_sound`** -- what may be used is what is sound, and is answered as it is; in a
  strict stage it is what is sound and has no warning, that is, what is sound and tidy;
* `RuleSet.sound_of_validated` -- so the conditions of a set that is answered are sound.
-/

namespace LeadRouting

/-! ## 1. What a strict stage asks besides -/

/-- Some place is wanted, or some is not. -/
def Geography.Tidy (g : Geography) : Prop :=
  (∃ p ∈ g.included, p.isEmpty = false) ∨ ∃ p ∈ g.excluded, p.isEmpty = false

/-- The filters that are there have entries. -/
structure Demographics.Tidy (d : Demographics) : Prop where
  tags : ∀ f ∈ d.tags, f.isEmpty = false
  languages : ∀ f ∈ d.languages, f.isEmpty = false
  ethnicities : ∀ f ∈ d.ethnicities, f.isEmpty = false

/-- A test for presence has no value. -/
def FieldTest.Tidy (t : FieldTest) : Prop := t.operator.asksPresence = true → t.value = .null

/-- The categories that are there ask for something. -/
structure Conditions.Tidy [Zones] (c : Conditions) : Prop where
  geography : ∀ g ∈ c.geography, g.Tidy
  priceBand : ∀ b ∈ c.priceBand, b.bounded = true
  demographics : ∀ d ∈ c.demographics, d.Tidy
  customFields : ∀ ts ∈ c.customFields, ∀ t ∈ ts, t.Tidy

/-- No part of the rule is without effect: a pond is its only target, and the weights of its policy
    add up to one. -/
structure Rule.Tidy [Zones] (r : Rule) : Prop where
  targets : ∀ id, .pond id ∈ r.targets → r.targets = [.pond id]
  conditions : ∀ c ∈ r.conditions, c.Tidy
  policy : ∀ p ∈ r.policy, p.unbalanced = false

/-- The set has rules, and no part of them is without effect. -/
structure RuleSet.Tidy [Zones] (s : RuleSet) : Prop where
  rules_ne : s.rules ≠ []
  rules : ∀ r ∈ s.rules, r.Tidy

/-! ## 2. What is warned about -/

theorem warned_findIn_eq_false_iff {α : Type} (f : α → List Finding) (a : Option α) :
    warned (findIn f a) = false ↔ ∀ x ∈ a, warned (f x) = false := by
  rw [warned_findIn]
  cases a <;> simp

section Warned

variable (source : String)

theorem Geography.warned_eq_false_iff (g : Geography) :
    warned (g.findings source) = false ↔ g.Tidy := by
  have hsome : ∀ a : Option Places, a.all Places.isEmpty = false ↔ ∃ p ∈ a, p.isEmpty = false := by
    intro a
    cases a <;> simp
  rw [warned_eq, Bool.and_eq_false_iff, hsome, hsome]
  rfl

theorem Demographics.warned_eq_false_iff (d : Demographics) :
    warned (d.findings source) = false ↔ d.Tidy := by
  have hnone : ∀ a : Option MemberFilter, a.any MemberFilter.isEmpty = false ↔
      ∀ f ∈ a, f.isEmpty = false := by
    intro a
    cases a <;> simp
  rw [warned_eq, Bool.or_eq_false_iff, Bool.or_eq_false_iff, hnone, hnone, hnone]
  exact ⟨fun h => ⟨h.1.1, h.1.2, h.2⟩, fun h => ⟨⟨h.tags, h.languages⟩, h.ethnicities⟩⟩

theorem FieldTest.warned_eq_false_iff (t : FieldTest) (i : Nat) :
    warned (t.findings source i) = false ↔ t.Tidy := by
  unfold Tidy
  rw [warned_eq]
  cases t.operator.asksPresence with
  | false => exact iff_of_true rfl nofun
  | true =>
      rw [Bool.true_and, Bool.not_eq_false', ← not_iff_not, Bool.not_eq_true,
        nullValue_eq_false_iff]
      simp

theorem FieldTest.warned_listFindings_eq_false_iff (ts : List FieldTest) :
    warned (listFindings source ts) = false ↔ ∀ t ∈ ts, t.Tidy := by
  have hone : ∀ t i, (∀ g ∈ findings source i t, ¬ decide (g.severity = .warning) = true) ↔
      t.Tidy := by
    intro t i
    rw [← List.any_eq_false]
    exact t.warned_eq_false_iff source i
  unfold warned
  rw [List.any_eq_false]
  exact forall_mem_flatMap_zipIdx (fun t i => hone t i) ts

theorem Conditions.warned_eq_false_iff [Zones] (c : Conditions) :
    warned (c.findings source) = false ↔ c.Tidy := by
  unfold findings
  simp only [warned_append, Bool.or_eq_false_iff, warned_findIn_eq_false_iff,
    Geography.warned_eq_false_iff, PriceBand.warned_eq, SourceFilter.warned_eq, Window.warned_eq,
    Demographics.warned_eq_false_iff, FieldTest.warned_listFindings_eq_false_iff,
    Bool.not_eq_false']
  constructor
  · rintro ⟨⟨⟨⟨⟨hgeography, hprice⟩, -⟩, -⟩, hdemographics⟩, hcustom⟩
    exact ⟨hgeography, hprice, hdemographics, hcustom⟩
  · rintro ⟨hgeography, hprice, hdemographics, hcustom⟩
    exact ⟨⟨⟨⟨⟨hgeography, hprice⟩, fun _ _ => trivial⟩, fun _ _ => trivial⟩, hdemographics⟩,
      hcustom⟩

theorem Policy.warned_eq (field : String) (p : Policy) :
    warned (p.findings source field) = p.unbalanced := by
  unfold findings
  rw [warned_append, warned_append, warned_flatMap, warned_findIf_error, warned_findIf_warning,
    Bool.or_false]
  have hweights : p.weights.any (fun w => warned (findIf (!Number.inUnit w.2)
      (.error .valueOutOfRange source (field ++ "." ++ w.1)
        ("Must be between 0.0 and 1.0, got " ++ Number.Layout.message.write w.2)))) = false := by
    rw [List.any_eq_false]
    intro w _
    rw [warned_findIf_error]
    exact Bool.false_ne_true
  exact congrArg (· || p.unbalanced) hweights

/-- Where a pond stands it stands alone, or there is a warning. -/
theorem Target.warned_listFindings_eq_false_iff (targets : List Target) :
    warned (listFindings source targets) = false ↔
      ∀ id, .pond id ∈ targets → targets = [.pond id] := by
  rw [warned_listFindings, Bool.or_eq_false_iff]
  cases targets with
  | nil => simp [pondBeforeOthers]
  | cons t rest =>
      have hbehind : ∀ n, 0 < n → ((rest.zipIdx n).any fun e => e.1.isPond && decide (0 < e.2)) =
          rest.any isPond := by
        induction rest with
        | nil => exact fun _ _ => rfl
        | cons u more ih =>
            intro n hn
            rw [List.zipIdx_cons, List.any_cons, List.any_cons, ih (n + 1) (Nat.succ_pos n),
              decide_eq_true hn, Bool.and_true]
      have hfirst : (t.isPond && decide (0 < 0)) = false := Bool.and_false _
      rw [List.zipIdx_cons, List.any_cons, hbehind 1 Nat.one_pos, hfirst, Bool.false_or,
        List.any_eq_false]
      constructor
      · rintro ⟨hrest, halone⟩ id hid
        rcases List.mem_cons.mp hid with rfl | hid
        · cases rest with
          | nil => rfl
          | cons u more => cases halone
        · exact absurd rfl (hrest _ hid)
      · intro h
        have halone : ∀ u ∈ rest, ¬ u.isPond = true := by
          intro u hu hpond
          cases u with
          | agents ids | team id strategy => cases hpond
          | pond id =>
              have heq := h id (List.mem_cons_of_mem _ hu)
              rw [(List.cons.inj heq).2] at hu
              cases hu
        refine ⟨halone, ?_⟩
        cases t with
        | agents ids | team id strategy => rfl
        | pond id =>
            have heq := h id List.mem_cons_self
            rw [(List.cons.inj heq).2]
            rfl

end Warned

theorem Rule.warned_eq_false_iff [Zones] (r : Rule) : warned r.findings = false ↔ r.Tidy := by
  unfold findings
  simp only [warned_append, Bool.or_eq_false_iff, warned_findIn_eq_false_iff,
    Target.warned_listFindings_eq_false_iff, Conditions.warned_eq_false_iff, Policy.warned_eq,
    warned_findIf_error, and_true]
  constructor
  · rintro ⟨⟨htargets, hconditions⟩, hpolicy⟩
    exact ⟨htargets, hconditions, hpolicy⟩
  · rintro ⟨htargets, hconditions, hpolicy⟩
    exact ⟨⟨htargets, hconditions⟩, hpolicy⟩

theorem Rule.warned_listFindings_eq_false_iff [Zones] (source : String) (seen : List String)
    {rules : List Rule} (hids : ∀ r ∈ rules, Text.Filled r.id) :
    warned (listFindings source seen rules) = false ↔ ∀ r ∈ rules, r.Tidy := by
  induction rules generalizing seen with
  | nil => simp [listFindings, warned]
  | cons r rest ih =>
      obtain ⟨hid, hothers⟩ := List.forall_mem_cons.mp hids
      unfold listFindings
      rw [(Text.blank_eq_false_iff r.id).mpr hid, if_neg Bool.false_ne_true, warned_append,
        warned_append, warned_findIf, Bool.or_eq_false_iff, Bool.or_eq_false_iff,
        Rule.warned_eq_false_iff, ih (r.id :: seen) hothers, List.forall_mem_cons]
      have hdouble : (seen.contains r.id && decide (Severity.critical = .warning)) = false :=
        Bool.and_false _
      exact and_congr_left' (and_iff_right hdouble)

theorem RuleSet.warned_eq_false_iff [Zones] (source : String) {s : RuleSet} (h : s.Sound) :
    warned (s.findings source) = false ↔ s.Tidy := by
  obtain ⟨rules⟩ := s
  unfold findings
  cases rules with
  | nil => exact iff_of_false (fun hwarned => by cases hwarned) fun htidy => htidy.rules_ne rfl
  | cons r rest =>
      rw [if_neg (by rw [List.isEmpty_cons]; exact Bool.false_ne_true),
        Rule.warned_listFindings_eq_false_iff source [] fun r hr => (h.rules r hr).id]
      exact ⟨fun htidy => ⟨List.cons_ne_nil _ _, htidy⟩, fun htidy => htidy.rules⟩

/-! ## 3. Which sets are answered -/

/-- **A finding is serious or a warning**, so there are none where there is neither. -/
theorem eq_nil_iff_harmless (fs : List Finding) : fs = [] ↔ Harmless fs ∧ warned fs = false := by
  cases fs with
  | nil => exact iff_of_true rfl ⟨nofun, rfl⟩
  | cons f rest =>
      refine iff_of_false (List.cons_ne_nil f rest) ?_
      rintro ⟨hharmless, hwarned⟩
      have hserious : decide (f.severity ≠ .warning) = false := hharmless f List.mem_cons_self
      have hnone := List.any_eq_false.mp hwarned f List.mem_cons_self
      exact hnone (decide_eq_true (Decidable.not_not.mp (of_decide_eq_false hserious)))

theorem Report.isOk_iff (r : Report) : r.isOk = true ↔ Harmless r.findings := by
  unfold isOk
  rw [Bool.not_eq_true', List.any_eq_false]
  exact forall₂_congr fun f _ => iff_of_eq (Bool.not_eq_true _)

theorem Report.warnings_eq_nil_iff (r : Report) : r.warnings = [] ↔ warned r.findings = false := by
  unfold warnings warned
  rw [List.filter_eq_nil_iff, List.any_eq_false]

namespace RuleSet

section Answers

variable [Zones]

/-- In a strict stage every finding stands in the way. -/
theorem obstacles_strict_eq_nil_iff (source : String) (s : RuleSet) :
    s.obstacles source true = [] ↔
      Harmless (s.findings source) ∧ warned (s.findings source) = false := by
  unfold obstacles
  simp only [Bool.true_or]
  rw [List.filter_true]
  exact eq_nil_iff_harmless _

theorem validated_eq_ok_iff_obstacles (source : String) (strict : Bool) (s t : RuleSet) :
    s.validated source strict = .ok t ↔ s.obstacles source strict = [] ∧ t = s := by
  unfold validated
  cases s.obstacles source strict with
  | nil => simp [eq_comm]
  | cons f fs => simp

/-- **What validation guarantees.** -/
theorem validated_sound (source : String) (s t : RuleSet) :
    (s.validated source false = .ok t ↔ (s.report source).isOk = true ∧ t = s) ∧
    ((s.report source).isOk = true ↔ s.Sound) ∧
    (s.validated source true = .ok t ↔
      s.validated source false = .ok t ∧ (s.report source).warnings = []) ∧
    (s.validated source true = .ok t ↔ (s.Sound ∧ s.Tidy) ∧ t = s) := by
  have hok : (s.report source).isOk = true ↔ Harmless (s.findings source) :=
    (s.report source).isOk_iff
  have hwarnings : (s.report source).warnings = [] ↔ warned (s.findings source) = false :=
    (s.report source).warnings_eq_nil_iff
  have hsound : (s.report source).isOk = true ↔ s.Sound := hok.trans (harmless_iff source s)
  refine ⟨validated_eq_ok_iff source s t, hsound, ?_, ?_⟩
  · rw [validated_eq_ok_iff_obstacles, obstacles_strict_eq_nil_iff, validated_eq_ok_iff, hok,
      hwarnings, and_right_comm]
  · rw [validated_eq_ok_iff_obstacles, obstacles_strict_eq_nil_iff, harmless_iff]
    exact and_congr_left fun _ => and_congr_right fun h => warned_eq_false_iff source h

end Answers

example : Example.rules.validated "rules" true = .ok Example.rules := rfl

/-! ## 4. What a set that may be used asks for -/

/-- A rule of the set has the conditions. -/
def Asks [Zones] (s : RuleSet) (c : Conditions) : Prop := ∃ r ∈ s.rules, r.conditions = some c

/-- In every stage a set that is answered has sound conditions only. -/
theorem sound_of_validated [Zones] {source : String} {strict : Bool} {s t : RuleSet}
    {c : Conditions} (h : s.validated source strict = .ok t) (hc : s.Asks c) : c.Sound := by
  have hclear := ((validated_eq_ok_iff_obstacles source strict s t).mp h).1
  have hharmless : Harmless (s.findings source) := by
    intro f hf
    have hserious := List.filter_eq_nil_iff.mp hclear f hf
    rw [Bool.or_eq_true, not_or, Bool.not_eq_true, Bool.not_eq_true] at hserious
    exact hserious.2
  obtain ⟨r, hr, hconditions⟩ := hc
  exact (((harmless_iff source s).mp hharmless).rules r hr).conditions c hconditions

end RuleSet

namespace Example

/-- The rule of the eastern team, under conditions. -/
def asking (c : Conditions) : RuleSet := ⟨[{ rule with conditions := some c }]⟩

theorem asks_asking (c : Conditions) : (asking c).Asks c := ⟨_, List.mem_cons_self, rfl⟩

end Example

end LeadRouting
