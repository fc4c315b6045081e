import LeadRouting.Files
import LeadRouting.Json.Reader
import LeadRouting.Rule.Source
import LeadRouting.Yaml.Reader

/-!
# Rule sets from texts and files

A rule set is written in one of two formats. **The ending of a file's name chooses the format**:
`json` in any case of its letters means the one with braces, and every other ending, or none, the
one with columns.
-/

namespace LeadRouting.RuleSet

variable [Zones]

/-! ## 1. Texts -/

/-- The rule set of a document that may be missing. -/
def ofDocument? (d : Option Document) : Except RuleFault RuleSet :=
  match d with
  | none => .error .unreadable
  | some d => (decode d).mapError fun _ => .unreadable

/-- The rule set of a text with braces. -/
def ofJsonText (s : String) : Except RuleFault RuleSet :=
  ofDocument? (Json.document? s)

/-- The rule set of a text with columns. -/
def ofYamlText (s : String) : Except RuleFault RuleSet := ofDocument? (Yaml.read? s)

/-! ## 2. Files -/

/-- The file is one with braces. -/
def isJsonPath (path : String) : Bool :=
  (Path.ending? path).any fun e => Text.alikeLetters e "json"

/-- The rule set of what was read at a path. -/
def ofFile (path : String) (text : Except ReadFault String) : Except RuleFault RuleSet :=
  match text with
  | .error fault => .error (.notFound path fault.message)
  | .ok s => if isJsonPath path then ofJsonText s else ofYamlText s

variable {m : Type → Type} [Monad m]

/-- The rule set of a file. -/
def read (files : Files m) (path : String) : m (Except RuleFault RuleSet) := do
  return ofFile path (← files.read path)

/-- The rule set of a file, if it may be used. -/
def load (files : Files m) (path : String) (strict : Bool) : m (Except RuleFault RuleSet) := do
  return (← read files path).bind fun s => s.validated path strict

end LeadRouting.RuleSet
