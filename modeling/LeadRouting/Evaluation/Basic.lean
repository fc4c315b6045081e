import LeadRouting.Condition.Basic

/-!
# Evaluations

Conditions are tested category by category, always in the same order. **Each category that is there
gives one check, and the conditions match when no check failed**; conditions without a category, and
no conditions at all, match every lead.

A check says why it failed and says nothing when it passed.
-/

namespace LeadRouting

/-! ## 1. Categories and checks -/

/-- A category of conditions. -/
inductive Category where
  | geography | priceBand | sources | consent
  | representation | windows | demographics | customFields
  deriving DecidableEq

namespace Category

/-- Every category, in the order in which they are tested. -/
def all : List Category :=
  [.geography, .priceBand, .sources, .consent, .representation, .windows, .demographics,
    .customFields]

/-- The name of a category in documents. -/
def name : Category → String
  | .geography => "geography"
  | .priceBand => "priceBand"
  | .sources => "sources"
  | .consent => "consent"
  | .representation => "buyerRep"
  | .windows => "timeWindows"
  | .demographics => "demographics"
  | .customFields => "customFields"

@[simp] theorem mem_all (k : Category) : k ∈ all := by cases k <;> decide

end Category

/-- What came of testing one category. -/
structure Check where
  category : Category
  passed : Bool
  detail : Option String
  deriving DecidableEq

/-- The check of a category that failed for a reason, or did not fail. -/
def Check.of (k : Category) (failure : Option String) : Check := ⟨k, failure.isNone, failure⟩

@[simp] theorem Check.of_category (k : Category) (f : Option String) :
    (Check.of k f).category = k := rfl

@[simp] theorem Check.of_passed (k : Category) (f : Option String) :
    (Check.of k f).passed = f.isNone := rfl

@[simp] theorem Check.of_detail (k : Category) (f : Option String) :
    (Check.of k f).detail = f := rfl

/-- What came of testing conditions. -/
structure Evaluation where
  matched : Bool
  checks : List Check
  deriving DecidableEq

namespace Evaluation

/-- The evaluation with the given checks. -/
def ofChecks (checks : List Check) : Evaluation := ⟨checks.all Check.passed, checks⟩

/-- The check of a category, if it was tested. -/
def check? (e : Evaluation) (k : Category) : Option Check := e.checks.find? fun c => c.category = k

/-- The checks that failed. -/
def failed (e : Evaluation) : List Check := e.checks.filter fun c => !c.passed

@[simp] theorem ofChecks_checks (cs : List Check) : (ofChecks cs).checks = cs := rfl

theorem ofChecks_matched_iff (cs : List Check) :
    (ofChecks cs).matched = true ↔ ∀ c ∈ cs, c.passed = true := by simp [ofChecks]

end Evaluation

variable [Zones]

/-! ## 2. Testing -/

namespace Conditions

/-- What came of one category: nothing if it is not there, else the reason of a failure. -/
def outcome? (c : Conditions) (ctx : Context) : Category → Option (Option String)
  | .geography => c.geography.map fun g => g.failure? ctx.listing
  | .priceBand => c.priceBand.map fun b => b.failure? ctx.listing
  | .sources => c.sources.map fun f => f.failure? ctx.person
  | .consent => c.consent.map fun d => d.failure? ctx.person
  | .representation => c.representation.map fun d => d.failure? ctx.person
  | .windows => c.windows.map fun ws => Window.failure? ws ctx.zone ctx.now
  | .demographics => c.demographics.map fun d => d.failure? ctx.person
  | .customFields => c.customFields.map fun ts => FieldTest.failure? ts ctx.person.customFields

/-- The check of one category, if it is there. -/
def check? (c : Conditions) (ctx : Context) (k : Category) : Option Check :=
  (c.outcome? ctx k).map (Check.of k)

/-- The checks of every category that is there. -/
def checks (c : Conditions) (ctx : Context) : List Check := Category.all.filterMap (c.check? ctx)

/-- The conditions, tested against a context. -/
def evaluate (c : Conditions) (ctx : Context) : Evaluation := .ofChecks (c.checks ctx)

theorem mem_checks {c : Conditions} {ctx : Context} {k : Check} :
    k ∈ c.checks ctx ↔ c.check? ctx k.category = some k := by
  unfold checks
  rw [List.mem_filterMap]
  constructor
  · rintro ⟨a, -, h⟩
    obtain ⟨f, _, rfl⟩ := Option.map_eq_some_iff.1 h
    exact h
  · exact fun h => ⟨k.category, Category.mem_all _, h⟩

end Conditions

/-- Conditions that may be missing, tested against a context. -/
def evaluate (c : Option Conditions) (ctx : Context) : Evaluation :=
  match c with
  | none => .ofChecks []
  | some c => c.evaluate ctx

/-! ## 3. Evaluations of rules -/

/-- The evaluation of the conditions of a rule. -/
structure RuleVerdict where
  ruleId : String
  evaluation : Evaluation
  deriving DecidableEq

/-! ## 4. As values -/

/-- Reads a check. -/
def Check.decode : Decoder Check :=
  Fields.decoder
    (Check.mk
      <$> .required "key" (.named Category.all Category.name)
      <*> .required "passed" Decoder.bool
      <*> .optional "detail" Decoder.text)
    false

/-- The check as a value; there is no detail in it where there is none to give. -/
def Check.toJson (c : Check) : Json := .record <|
  [("key", .text c.category.name), ("passed", .bool c.passed)] ++
    Conditions.entry "detail" Json.text c.detail

/-- Reads an evaluation. -/
def Evaluation.decode : Decoder Evaluation :=
  Fields.decoder
    (Evaluation.mk
      <$> .required "matched" Decoder.bool
      <*> .required "checks" (.list Check.decode))
    false

/-- The evaluation as a value. -/
def Evaluation.toJson (e : Evaluation) : Json := .record
  [("matched", .bool e.matched), ("checks", .ofList Check.toJson e.checks)]

/-- Reads the evaluation of a rule. -/
def RuleVerdict.decode : Decoder RuleVerdict :=
  Fields.decoder
    (RuleVerdict.mk
      <$> .required "ruleId" Decoder.text
      <*> .required "evaluation" Evaluation.decode)
    false

/-- The evaluation of a rule as a value. -/
def RuleVerdict.toJson (v : RuleVerdict) : Json := .record
  [("ruleId", .text v.ruleId), ("evaluation", v.evaluation.toJson)]

end LeadRouting
