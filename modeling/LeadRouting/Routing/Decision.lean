import LeadRouting.Routing.Rotation
import LeadRouting.Rule.Set

/-!
# Decisions

A router takes a lead through a rule set. **The first candidate that matches decides**: it sends the
lead to a pond, or it routes the request over the agents of its targets. If none matches the
decision tells what came of every candidate, and the request falls back.

The policy of the rule comes before that of the request, which comes before that of the router; the
team to fall back on is the rule's or else the request's. A rotation is asked for the first team of
the rule that takes turns.
-/

namespace LeadRouting

/-! ## 1. Decisions -/

/-- What became of a lead. -/
inductive Decision where
  | routed (ruleId : String) (evaluation : Evaluation) (selection : Selection)
  | pond (ruleId pondId : String) (evaluation : Evaluation)
  | unmatched (verdicts : List RuleVerdict) (selection : Selection)
  deriving DecidableEq

namespace Decision

/-- The rule that matched. -/
def ruleId? : Decision → Option String
  | .routed id _ _ => some id
  | .pond id _ _ => some id
  | .unmatched _ _ => none

/-- The selection of agents; there is none for a pond. -/
def selection? : Decision → Option Selection
  | .routed _ _ s => some s
  | .pond _ _ _ => none
  | .unmatched _ s => some s

/-- Reads a decision; its kind stands under `decision`. -/
def decode : Decoder Decision :=
  Decoder.tagged "decision"
    [ ("ROUTED", Decision.routed
        <$> .required "ruleId" Decoder.text
        <*> .required "evaluation" Evaluation.decode
        <*> .required "result" Selection.decode),
      ("POND", Decision.pond
        <$> .required "ruleId" Decoder.text
        <*> .required "pondId" Decoder.text
        <*> .required "evaluation" Evaluation.decode),
      ("NO_RULE_MATCHED", Decision.unmatched
        <$> .required "evaluations" (.list RuleVerdict.decode)
        <*> .required "result" Selection.decode) ]
    false

/-- The decision as a value. -/
def toJson : Decision → Json
  | .routed ruleId evaluation selection => .record
    [ ("decision", .text "ROUTED"),
      ("ruleId", .text ruleId),
      ("evaluation", evaluation.toJson),
      ("result", selection.toJson) ]
  | .pond ruleId pondId evaluation => .record
    [ ("decision", .text "POND"),
      ("ruleId", .text ruleId),
      ("pondId", .text pondId),
      ("evaluation", evaluation.toJson) ]
  | .unmatched verdicts selection => .record
    [ ("decision", .text "NO_RULE_MATCHED"),
      ("evaluations", .ofList RuleVerdict.toJson verdicts),
      ("result", selection.toJson) ]

end Decision

/-! ## 2. Routers -/

/-- What a router brings to every lead: a policy where nobody names one, and perhaps a rotation. -/
structure Router (σ : Type) where
  policy : Policy
  rotation : Option (Rotation σ)

variable [Zones]

namespace Router

variable {σ : Type}

/-- The request as a rule changes it: its own pool, policy and team to fall back on. -/
def scope (router : Router σ) (rule : Rule) (pool : List Agent) (r : LeadRequest) : LeadRequest :=
  { r with
    agents := pool
    policy := some ((rule.policy.or r.policy).getD router.policy)
    fallbackTeamId := rule.fallbackTeamId.or r.fallbackTeamId }

/-- The selection for a request that a rule has changed. -/
def select (router : Router σ) (rule : Rule) (r : LeadRequest) (s : σ) : Selection × σ :=
  match rule.rotatingTeam?, router.rotation with
  | some team, some rotation => r.routeWith rotation team s
  | _, _ => (r.route, s)

/-- The decision of a rule that has matched. -/
def decideBy (router : Router σ) (rule : Rule) (ctx : Context) (r : LeadRequest) (s : σ) :
    Decision × σ :=
  match resolve rule.targets r.agents with
  | .pond id => (.pond rule.id id (rule.evaluate ctx), s)
  | .agents pool =>
    let (selection, s) := router.select rule (router.scope rule pool r) s
    (.routed rule.id (rule.evaluate ctx) selection, s)

/-- The first candidate whose conditions hold. -/
def firstMatch? (rules : RuleSet) (ctx : Context) : Option Rule :=
  rules.candidates.find? fun rule => rule.isMatch ctx

/-- The decision on a lead, and what the rotation remembers then. -/
def route (router : Router σ) (rules : RuleSet) (ctx : Context) (r : LeadRequest) (s : σ) :
    Decision × σ :=
  match firstMatch? rules ctx with
  | some rule => router.decideBy rule ctx r s
  | none => (.unmatched (rules.candidates.map (Rule.verdict ctx)) (.fallback r), s)

/-- A router without a rotation. -/
def plain (policy : Policy) : Router Unit := ⟨policy, none⟩

theorem route_of_firstMatch {router : Router σ} {rules : RuleSet} {ctx : Context} {r : LeadRequest}
    {s : σ} {rule : Rule} (h : firstMatch? rules ctx = some rule) :
    router.route rules ctx r s = router.decideBy rule ctx r s := by simp [route, h]

/-- **Nothing matches exactly when no enabled rule does.** -/
theorem firstMatch?_eq_none_iff (rules : RuleSet) (ctx : Context) :
    firstMatch? rules ctx = none ↔
      ∀ rule ∈ rules.rules, rule.enabled = true → rule.isMatch ctx = false := by
  simp only [firstMatch?, List.find?_eq_none, RuleSet.mem_candidates, Bool.not_eq_true, and_imp]

end Router

end LeadRouting
