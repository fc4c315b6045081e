import LeadRouting.Rule.Finding

/-!
# Rule sets that may be used

A rule set is used only if its report holds nothing serious, or nothing at all where the stage of
the tenant is strict. `RuleSet.validated` **answers the set unchanged or every finding that stands
in the way**.
-/

namespace LeadRouting

/-- Why a rule set cannot be used. -/
inductive RuleFault where
  | notFound (path reason : String)
  /-- The text is no document, or the document no rule set. -/
  | unreadable
  | invalid (findings : List Finding)
  deriving DecidableEq

namespace RuleFault

/-- The start of what is said of a text that cannot be read. -/
def unreadableLead : String := "Failed to parse rules"

/-- The fault in words. -/
def message : RuleFault → String
  | .notFound path reason => "Rule file not found: " ++ path ++ ": " ++ reason
  | .unreadable => unreadableLead
  | .invalid findings =>
    "Rule set failed validation with " ++ toString findings.length ++ " problem(s): " ++
      String.intercalate "; " (findings.map Finding.describe)

end RuleFault

variable [Zones]

namespace RuleSet

/-- The findings that keep a set from being used, in a strict stage or in another one. -/
def obstacles (source : String) (strict : Bool) (s : RuleSet) : List Finding :=
  (s.findings source).filter fun f => strict || f.serious

/-- The set, if nothing stands in its way. -/
def validated (source : String) (strict : Bool) (s : RuleSet) : Except RuleFault RuleSet :=
  if (s.obstacles source strict).isEmpty then .ok s
  else .error (.invalid (s.obstacles source strict))

/-- **A set may be used exactly when its report is all right.** -/
theorem validated_eq_ok_iff (source : String) (s t : RuleSet) :
    s.validated source false = .ok t ↔ (s.report source).isOk = true ∧ t = s := by
  have h : (s.obstacles source false).isEmpty = (s.report source).isOk := by
    rw [Bool.eq_iff_iff]
    simp [obstacles, Report.isOk, report, List.filter_eq_nil_iff]
  unfold validated
  rw [h]
  split
  · rename_i hok; simp [hok, eq_comm]
  · rename_i hok; simp [hok]

end RuleSet

end LeadRouting
