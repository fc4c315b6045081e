import LeadRouting.Rule.Set
import LeadRouting.Number.Layout

/-!
# Findings

Reading a rule set makes sure that it has the right shape. Findings say what is wrong with it all
the same: an error or something critical keeps the set from being used, a warning marks what can
never have an effect.

The findings of a set follow the rules in their order, and **a rule gives the same findings in every
set** but for the one that says its id has been used before. A rule without an id gives one finding
and is not looked at any further.
-/

namespace LeadRouting

/-! ## 1. Findings and reports -/

/-- What a finding is about. -/
inductive Fault where
  | missingRequired
  | invalidReference
  | valueOutOfRange
  | duplicate
  | schemaMismatch
  /-- Something that can never have an effect. -/
  | unused
  deriving DecidableEq

/-- The name of a fault. -/
def Fault.name : Fault → String
  | .missingRequired => "MissingRequired"
  | .invalidReference => "InvalidReference"
  | .valueOutOfRange => "ValueOutOfRange"
  | .duplicate => "Duplicate"
  | .schemaMismatch => "SchemaMismatch"
  | .unused => "Unused"

/-- How much a finding weighs. -/
inductive Severity where
  | warning | error | critical
  deriving DecidableEq

/-- The name of a severity. -/
def Severity.name : Severity → String
  | .warning => "Warning"
  | .error => "Error"
  | .critical => "Critical"

/-- Something that is wrong with a rule set. -/
structure Finding where
  fault : Fault
  severity : Severity
  /-- The set or the rule in which it was found. -/
  source : String
  field : Option String
  message : String
  deriving DecidableEq

namespace Finding

/-- The finding in words. -/
def describe (f : Finding) : String :=
  "[" ++ f.severity.name ++ "] " ++ f.source ++ "/" ++ f.field.getD "(root)" ++ ": " ++ f.message

/-- The finding keeps a set from being used. -/
def serious (f : Finding) : Bool := f.severity ≠ .warning

/-- Something without which nothing can be done. -/
def critical (source field message : String) : Finding :=
  ⟨.missingRequired, .critical, source, some field, message⟩

/-- Something that has to be mended. -/
def error (fault : Fault) (source field message : String) : Finding :=
  ⟨fault, .error, source, some field, message⟩

/-- Something that has no effect. -/
def warning (source field message : String) : Finding :=
  ⟨.unused, .warning, source, some field, message⟩

end Finding

/-- The finding, if something is the case. -/
def findIf (wrong : Bool) (f : Finding) : List Finding := if wrong then [f] else []

@[simp] theorem findIf_false (f : Finding) : findIf false f = [] := rfl

@[simp] theorem findIf_true (f : Finding) : findIf true f = [f] := rfl

@[simp] theorem mem_findIf {wrong : Bool} {f g : Finding} :
    g ∈ findIf wrong f ↔ wrong = true ∧ g = f := by cases wrong <;> simp

/-! ## 2. Policies -/

namespace Policy

/-- The weights under their names. -/
def weights (p : Policy) : List (String × Float) :=
  [ ("performanceWeight", p.performance),
    ("capacityWeight", p.capacity),
    ("geographyWeight", p.geography),
    ("priceBandWeight", p.priceBand) ]

/-- How far the sum of the weights may be from one. -/
def weightTolerance : Float := 1e-6

/-- The weights add up to something else than one. -/
def unbalanced (p : Policy) : Bool :=
  Number.lt weightTolerance (Number.abs (p.weightSum - 1.0))

/-- What is wrong with a policy that stands under a field of a source. -/
def findings (source field : String) (p : Policy) : List Finding :=
  (p.weights.flatMap fun (name, w) =>
    findIf (!Number.inUnit w) (.error .valueOutOfRange source (field ++ "." ++ name)
      ("Must be between 0.0 and 1.0, got " ++ Number.Layout.message.write w))) ++
  findIf (!Number.finite p.floor || Number.lt p.floor 0.0)
    (.error .valueOutOfRange source (field ++ ".minimumScore")
      ("Must be a non-negative number, got " ++ Number.Layout.message.write p.floor)) ++
  findIf p.unbalanced (.warning source field
    ("Factor weights sum to " ++ Number.writeFixed 3 p.weightSum ++ ", expected 1.0"))

end Policy

/-! ## 3. Targets -/

/-- A field with the place of an entry of it. -/
def placed (field : String) (i : Nat) : String := field ++ "[" ++ toString i ++ "]"

namespace Target

/-- What is wrong with a target at a place of the list. -/
def findings (source : String) (i : Nat) : Target → List Finding
  | .agents ids =>
    findIf ids.isEmpty (.error .missingRequired source (placed "targets" i)
      "AGENT target lists no agents") ++
    findIf (ids.any Text.blank) (.error .invalidReference source (placed "targets" i)
      "AGENT target contains an empty agent id")
  | .team id _ =>
    findIf (Text.blank id) (.error .missingRequired source (placed "targets" i)
      "TEAM target missing teamId")
  | .pond id =>
    findIf (Text.blank id) (.error .missingRequired source (placed "targets" i)
      "POND target missing pondId") ++
    findIf (0 < i) (.warning source (placed "targets" i)
      "POND target after agent targets is never used")

/-- A pond stands first and something stands behind it. -/
def pondBeforeOthers : List Target → Bool
  | .pond _ :: _ :: _ => true
  | _ => false

/-- What is wrong with the targets of a rule. -/
def listFindings (source : String) (targets : List Target) : List Finding :=
  if targets.isEmpty then [.critical source "targets" "Rule has no targets"]
  else
    (targets.zipIdx.flatMap fun (t, i) => t.findings source i) ++
    findIf (pondBeforeOthers targets) (.warning source "targets"
      "Rule routes to a pond first; remaining targets are never used")

end Target

variable [Zones]

/-! ## 4. Conditions -/

/-- What is wrong with a geography condition. -/
def Geography.findings (source : String) (g : Geography) : List Finding :=
  findIf (g.included.all Places.isEmpty && g.excluded.all Places.isEmpty)
    (.warning source "geography" "Geography condition has no values")

namespace PriceBand

/-- Bounds that no price lies between, in words. -/
def inverted? (b : PriceBand) : Option String :=
  match b.min, b.max with
  | some min, some max =>
    if Number.lt max min then
      some ("Invalid range: min (" ++ Number.Layout.message.write min ++ ") > max (" ++
        Number.Layout.message.write max ++ ")")
    else none
  | _, _ => none

/-- What is wrong with a price band. -/
def findings (source : String) (b : PriceBand) : List Finding :=
  (b.inverted?.map fun text => Finding.error .valueOutOfRange source "priceBand" text).toList ++
  findIf ((b.min.any fun x => Number.lt x 0.0) || (b.max.any fun x => Number.lt x 0.0))
    (.error .valueOutOfRange source "priceBand" "Price bounds must not be negative") ++
  findIf (!b.bounded) (.warning source "priceBand" "Price band has no bounds")

end PriceBand

namespace SourceFilter

/-- The first source that is wanted and unwanted, but for the case of its letters. -/
def overlap? (f : SourceFilter) : Option String :=
  f.included.find? fun s => f.excluded.any fun e => Text.alikeLetters e s

/-- What is wrong with a condition on the source. -/
def findings (source : String) (f : SourceFilter) : List Finding :=
  (f.overlap?.map fun s => Finding.error .schemaMismatch source "sources"
    ("Source '" ++ s ++ "' is both included and excluded")).toList

end SourceFilter

namespace Window

/-- What is wrong with a window at a place of the list. -/
def findings (source : String) (i : Nat) (w : Window) : List Finding :=
  findIf (w.start = w.stop) (.error .valueOutOfRange source (placed "timeWindows" i)
    ("Window " ++ w.start.write ++ "-" ++ w.stop.write ++ " is empty")) ++
  findIf (w.days.any List.isEmpty) (.error .missingRequired source (placed "timeWindows" i)
    "Window lists no days")

/-- What is wrong with a list of windows. -/
def listFindings (source : String) (windows : List Window) : List Finding :=
  findIf windows.isEmpty
    (.error .missingRequired source "timeWindows" "Empty window list never matches") ++
  windows.zipIdx.flatMap fun (w, i) => w.findings source i

end Window

/-- A filter without entries under a name. -/
def MemberFilter.findings (source name : String) (f : Option MemberFilter) : List Finding :=
  findIf (f.any MemberFilter.isEmpty)
    (.warning source ("demographics." ++ name) "Filter has no values")

namespace Demographics

/-- Bounds that no age lies between, in words. -/
def inverted? (d : Demographics) : Option String :=
  match d.minAge, d.maxAge with
  | some min, some max =>
    if max < min then
      some ("Invalid age range: min (" ++ toString min.toNat ++ ") > max (" ++
        toString max.toNat ++ ")")
    else none
  | _, _ => none

/-- What is wrong with a condition on who the person is. -/
def findings (source : String) (d : Demographics) : List Finding :=
  (d.inverted?.map fun text => Finding.error .valueOutOfRange source "demographics" text).toList ++
  MemberFilter.findings source "tags" d.tags ++
  MemberFilter.findings source "languages" d.languages ++
  MemberFilter.findings source "ethnicities" d.ethnicities

end Demographics

namespace FieldTest

/-- A value that an operator on numbers takes: a number, or a text that spells one. -/
def numericValue : Json → Bool
  | .int _ => true
  | .float _ => true
  | .text s => (Number.read? (Text.trim s)).isSome
  | _ => false

/-- The value is a list. -/
def listValue : Json → Bool
  | .list _ => true
  | _ => false

/-- The value is null. -/
def nullValue : Json → Bool
  | .null => true
  | _ => false

/-- What is wrong with the value of a test at a place of the list. -/
def valueFindings (source : String) (i : Nat) (t : FieldTest) : List Finding :=
  if t.operator.asksPresence then
    findIf (!nullValue t.value)
      (.warning source (placed "customFields" i) (t.operator.name ++ " ignores its value"))
  else
    findIf (t.operator.takesList && !listValue t.value)
      (.error .schemaMismatch source (placed "customFields" i)
        (t.operator.name ++ " requires a list value")) ++
    findIf (t.operator.numeric && !numericValue t.value)
      (.error .schemaMismatch source (placed "customFields" i)
        (t.operator.name ++ " requires a numeric value")) ++
    findIf (nullValue t.value)
      (.error .missingRequired source (placed "customFields" i)
        (t.operator.name ++ " requires a value"))

/-- What is wrong with a test at a place of the list. -/
def findings (source : String) (i : Nat) (t : FieldTest) : List Finding :=
  findIf (Text.blank t.key) (.error .missingRequired source (placed "customFields" i)
    "Custom field condition missing key") ++
  t.valueFindings source i

/-- What is wrong with a list of tests. -/
def listFindings (source : String) (tests : List FieldTest) : List Finding :=
  tests.zipIdx.flatMap fun (t, i) => t.findings source i

end FieldTest

/-- What is wrong with something, if it is there. -/
def findIn {α : Type} (f : α → List Finding) (a : Option α) : List Finding := a.elim [] f

/-- What is wrong with the conditions of a rule. -/
def Conditions.findings (source : String) (c : Conditions) : List Finding :=
  findIn (Geography.findings source) c.geography ++
  findIn (PriceBand.findings source) c.priceBand ++
  findIn (SourceFilter.findings source) c.sources ++
  findIn (Window.listFindings source) c.windows ++
  findIn (Demographics.findings source) c.demographics ++
  findIn (FieldTest.listFindings source) c.customFields

/-! ## 5. Rules and sets -/

namespace Rule

/-- What is wrong with a rule that has an id. -/
def findings (r : Rule) : List Finding :=
  Target.listFindings r.id r.targets ++
  findIn (Conditions.findings r.id) r.conditions ++
  findIn (Policy.findings r.id "config") r.policy ++
  findIf (r.fallbackTeamId.any Text.blank)
    (.error .missingRequired r.id "fallbackTeamId" "Fallback team id is empty")

/-- What is wrong with a list of rules, `seen` being the ids in front of it. -/
def listFindings (source : String) (seen : List String) : List Rule → List Finding
  | [] => []
  | r :: rest =>
    if Text.blank r.id then .critical source "id" "Rule missing id" :: listFindings source seen rest
    else
      findIf (seen.contains r.id) ⟨.duplicate, .critical, r.id, some "id", "Duplicate rule id"⟩ ++
      r.findings ++ listFindings source (r.id :: seen) rest

end Rule

/-- What is wrong with a rule set from a source. -/
def RuleSet.findings (source : String) (s : RuleSet) : List Finding :=
  if s.rules.isEmpty then [.warning source "rules" "No rules defined; every lead will fall back"]
  else Rule.listFindings source [] s.rules

/-! ## 6. Reports -/

/-- The findings on a source. -/
structure Report where
  source : String
  findings : List Finding

namespace Report

/-- There is nothing serious in the report. -/
def isOk (r : Report) : Bool := !r.findings.any Finding.serious

/-- The warnings in the report. -/
def warnings (r : Report) : List Finding := r.findings.filter fun f => f.severity = .warning

/-- What is serious in the report. -/
def failures (r : Report) : List Finding := r.findings.filter Finding.serious

/-- The number of findings of a severity. -/
def count (r : Report) (s : Severity) : Nat := r.findings.countP fun f => f.severity = s

/-- The report in a line. -/
def summary (r : Report) : String :=
  if r.findings.isEmpty then "Rules '" ++ r.source ++ "': All validations passed"
  else
    "Rules '" ++ r.source ++ "': " ++ toString (r.count .critical) ++ " critical, " ++
      toString (r.count .error) ++ " errors, " ++ toString (r.count .warning) ++ " warnings"

end Report

/-- The report on a rule set. -/
def RuleSet.report (source : String) (s : RuleSet) : Report := ⟨source, s.findings source⟩

end LeadRouting
