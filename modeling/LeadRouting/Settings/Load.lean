import LeadRouting.Files
import LeadRouting.Settings.Layer

/-!
# Loading settings

The settings of a tenant come from a file with defaults, a file for the stage if one is named, and
the variables of the environment, **the later ones going over the earlier ones**. A file that is not
there has no entries; one that is there and cannot be read keeps all settings from being read.
-/

namespace LeadRouting.Settings

open LeadRouting.Layer

/-- What makes a table of a text. -/
abbrev Format := String → Option Table

/-- The formats of a file of settings, by the endings of its name. -/
def formats : List (String × Format) :=
  [("yaml", ofYamlText?), ("yml", ofYamlText?), ("json", ofJsonText?)]

/-- The table of a text in a format, if there is a text. -/
def tableOf (found : Option (Format × String)) : Except SettingsFault Table :=
  match found with
  | none => .ok []
  | some (format, text) =>
    match format text with
    | some table => .ok table
    | none => .error .unreadable

variable [Zones]

/-- The settings of a table, if nothing is wrong with them. -/
def ofTable (root : Json) : Except SettingsFault Settings :=
  match decode (Document.soften (Document.ofJson root)) with
  | .error _ => .error .unreadable
  | .ok s => s.validated

variable {m : Type → Type} [Monad m]

/-- The first file that is there of those with a name and one of the endings. -/
def firstFile (files : Files m) (name : String) :
    List (String × Format) → m (Option (Format × String))
  | [] => return none
  | (ending, format) :: rest => do
    match ← files.read (name ++ "." ++ ending) with
    | .ok text => return some (format, text)
    | .error _ => firstFile files name rest

/-- The table of the file with a name. A file of that very name is the one if there is one; then its
own ending has to tell the format, and without a format it has no entries. A path that leads to no
file has no entries either. -/
def readTable (files : Files m) (name : String) : m (Except SettingsFault Table) := do
  match ← files.read name with
  | .ok text =>
    let format := (Path.ending? name).bind fun e => Json.lookup? e formats
    return tableOf (format.map fun f => (f, text))
  | .error _ =>
    if (Path.fileName? name).isNone then return .ok []
    else return tableOf (← firstFile files (Path.trimmed name) formats)

/-- The settings of the files, of the stage if one is named, and of the variables. -/
def load (files : Files m) (stage : Option String) (vars : List (String × String)) :
    m (Except SettingsFault Settings) := do
  let base ← readTable files "config/default"
  let staged ← stage.elim (pure (.ok [])) fun name => readTable files ("config/" ++ name)
  return base.bind fun base => staged.bind fun staged =>
    ofTable ([base, staged, ofVariables vars].foldl Layer.apply (.record []))

end LeadRouting.Settings
