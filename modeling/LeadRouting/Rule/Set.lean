import LeadRouting.Rule.Basic

/-!
# Rule sets

The rules of a set are tried in the order of `candidates`: **the enabled ones by ascending priority,
then by id**, and rules that agree in both as they stand in the set.
-/

namespace LeadRouting

variable [Zones]

/-- The rules of a tenant. -/
structure RuleSet where
  rules : List Rule

namespace RuleSet

/-- A set without rules. -/
def empty : RuleSet := ⟨[]⟩

/-- One rule is tried ahead of the other, or they agree. -/
def triedBefore (a b : Rule) : Bool :=
  a.priority < b.priority || (a.priority = b.priority && a.id ≤ b.id)

/-- The enabled rules in the order in which they are tried. -/
def candidates (s : RuleSet) : List Rule := (s.rules.filter Rule.enabled).mergeSort triedBefore

/-- The first rule with an id. -/
def get? (s : RuleSet) (id : String) : Option Rule := s.rules.find? fun r => r.id = id

/-- The number of rules. -/
def size (s : RuleSet) : Nat := s.rules.length

/-- Reads a rule set. -/
def decode : Decoder RuleSet :=
  Fields.decoder (RuleSet.mk <$> .withDefault "rules" (.list Rule.decode) []) true

/-- The rule set as a value. -/
def toJson (s : RuleSet) : Json := .record [("rules", .ofList Rule.toJson s.rules)]

theorem candidates_perm (s : RuleSet) : s.candidates.Perm (s.rules.filter Rule.enabled) :=
  List.mergeSort_perm _ _

/-- **The candidates are the enabled rules.** -/
theorem mem_candidates {s : RuleSet} {r : Rule} :
    r ∈ s.candidates ↔ r ∈ s.rules ∧ r.enabled = true := by
  rw [s.candidates_perm.mem_iff, List.mem_filter]

end RuleSet

end LeadRouting
