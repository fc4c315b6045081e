import LeadRouting.Routing.Decision
import LeadRouting.Rule.Source
import LeadRouting.Settings.Basic

/-!
# Commands

Two commands answer a request with a value: `evaluate` tells what comes of conditions for a context,
and `route` what becomes of a lead. The context of a request is read late, when the zone of the
tenant is known: **a context that names no zone is taken in the tenant's**.

* With conditions of its own a request to evaluate needs no rule set; with the id of a rule it asks
  for that rule, enabled or not; else it asks for every candidate.
* A request to route without a rule set is routed over the whole pool.
-/

namespace LeadRouting

variable [Zones]

/-! ## 1. Requests -/

/-- A request to evaluate conditions. -/
structure EvaluateRequest where
  context : Json
  ruleId : Option String
  conditions : Option Conditions

/-- A request to route a lead. -/
structure RouteRequest where
  context : Option Json
  input : LeadRequest

/-- Reads a request to evaluate; a name that is no field is refused. -/
def EvaluateRequest.decode : Decoder EvaluateRequest :=
  Fields.decoder
    (EvaluateRequest.mk
      <$> .required "context" Decoder.value
      <*> .optional "ruleId" Decoder.text
      <*> .optional "conditions" Conditions.decode)
    true

/-- Reads a request to route; a name that is no field is refused. -/
def RouteRequest.decode : Decoder RouteRequest :=
  Fields.decoder
    (RouteRequest.mk
      <$> .optional "context" Decoder.value
      <*> .required "input" LeadRequest.decode)
    true

/-! ## 2. Contexts -/

/-- A record with an entry for the zone; a value that is no record, or has one, stays as it is. -/
def withZone (z : Zone) : Json → Json
  | .record fields =>
    if (Json.lookup? "timezone" fields).isSome then .record fields
    else .record (Json.insertField "timezone" (.text z.name) fields)
  | v => v

/-- The context of a value, in the zone of the tenant if it names none. -/
def Context.ofJson (tenant : Zone) (v : Json) : Except DecodeError Context :=
  Context.decode (Document.ofJson (withZone tenant v))

/-! ## 3. What can go wrong -/

/-- Why a command has no answer. -/
inductive CommandFault where
  | badContext
  | badInput (fault : RequestFault)
  | noRules
  | noContext
  | unknownRule (id : String)
  | rules (fault : RuleFault)
  | settings (fault : SettingsFault)
  /-- The text of a request is not there. -/
  | unreadRequest (path reason : String)
  /-- The text of a request is no request. -/
  | badRequest (path : String)
  /-- A rule set has serious findings. -/
  | findings (summary : String)
  deriving DecidableEq

/-- The fault in words. -/
def CommandFault.message : CommandFault → String
  | .badContext => "Invalid routing context"
  | .badInput fault => "Invalid routing input: " ++ fault.message
  | .noRules => "No rule set loaded and no inline conditions given"
  | .noContext => "Rule-based routing needs a context"
  | .unknownRule id => "Unknown rule '" ++ id ++ "'"
  | .rules fault => fault.message
  | .settings fault => fault.message
  | .unreadRequest path reason =>
    (if path = "-" then "Failed to read request from stdin"
      else "Failed to read request file " ++ path)
      ++ ": " ++ reason
  | .badRequest path => "Invalid request in " ++ path
  | .findings summary => summary

/-! ## 4. Commands -/

/-- The context of a command. -/
def contextFor (tenant : Zone) (v : Json) : Except CommandFault Context :=
  (Context.ofJson tenant v).mapError fun _ => .badContext

/-- What comes of the conditions that a request asks for. -/
def verdictsFor (rules : Option RuleSet) (q : EvaluateRequest) (ctx : Context) :
    Except CommandFault (List RuleVerdict) :=
  match q.conditions, rules, q.ruleId with
  | some c, _, _ => .ok [⟨"inline", c.evaluate ctx⟩]
  | none, none, _ => .error .noRules
  | none, some rules, some id =>
    match rules.get? id with
    | some rule => .ok [rule.verdict ctx]
    | none => .error (.unknownRule id)
  | none, some rules, none => .ok (rules.candidates.map (Rule.verdict ctx))

/-- The answer to a request to evaluate. -/
def evaluateCommand (rules : Option RuleSet) (q : EvaluateRequest) (tenant : Zone) :
    Except CommandFault (List RuleVerdict) := do
  verdictsFor rules q (← contextFor tenant q.context)

/-- The answer to a request to route. -/
inductive RouteAnswer where
  | direct (selection : Selection)
  | ruled (decision : Decision)

/-- The answer as a value in normal form. -/
def RouteAnswer.toJson : RouteAnswer → Json
  | .direct s => s.toJson.normal
  | .ruled d => d.toJson.normal

/-- The request, if nothing is wrong with it. -/
def checkedInput (r : LeadRequest) : Except CommandFault LeadRequest :=
  match r.fault? with
  | some fault => .error (.badInput fault)
  | none => .ok r

/-- The context of a request to route, which rules cannot do without. -/
def routeContext (q : RouteRequest) (s : Settings) : Except CommandFault Context :=
  match q.context with
  | none => .error .noContext
  | some v => do
    let tenant ← s.zone.mapError CommandFault.settings
    contextFor tenant v

/-- The answer to a request to route. -/
def routeCommand (rules : Option RuleSet) (q : RouteRequest) (s : Settings) :
    Except CommandFault RouteAnswer := do
  let input ← checkedInput q.input
  match rules with
  | none => return .direct { input with policy := input.policy.or (some s.policy) }.route
  | some rules =>
    let ctx ← routeContext q s
    return .ruled ((Router.plain s.policy).route rules ctx input ()).1

end LeadRouting
