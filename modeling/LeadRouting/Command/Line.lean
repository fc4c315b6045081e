import LeadRouting.Command.Request
import LeadRouting.Json.Printer
import LeadRouting.Rule.File
import LeadRouting.Settings.Load
import LeadRouting.Time.ListedZone

/-!
# The command line

`lead-router [--pretty] [--rules FILE] check | evaluate [REQUEST] | route [REQUEST] [--direct]`

The options in front of the command hold for all commands, and none of them may stand behind it. A
request is a file, or what is fed to the program where the file is called `-`. The answer is one
line, or indented by two columns if it is to be pretty.

A run ends with `0` if there is an answer, with `1` if there is none and with `2` if the command
line makes no sense. **`check` prints the findings of a rule file in any case** and ends with `1` if
one of them is serious.
-/

namespace LeadRouting.CommandLine

/-! ## 1. The words of a command line -/

/-- What the program is to do. -/
inductive Task where
  | check
  | evaluate (request : String)
  | route (request : String) (direct : Bool)
  deriving DecidableEq

/-- What the options say. -/
structure Options where
  rules : Option String
  pretty : Bool
  deriving DecidableEq

/-- What a command line asks for. -/
inductive Ask where
  | version
  | run (options : Options) (task : Task)
  deriving DecidableEq

/-- The word starts with a hyphen and is not the hyphen alone. -/
def isOption (word : String) : Bool :=
  match word.toList with
  | '-' :: _ :: _ => true
  | _ => false

/-- The words behind a command: the file at most once, and the options it knows, each once. After
two hyphens every word is a file. -/
def readTail (known : Option String) (file : Option String) (seen plain : Bool) :
    List String → Option (Option String × Bool)
  | [] => some (file, seen)
  | word :: rest =>
    if !plain && word = "--" then readTail known file seen true rest
    else if !plain && isOption word then
      if known = some word && !seen then readTail known file true plain rest else none
    else if file.isNone then readTail known (some word) seen plain rest
    else none

/-- The task of a command and the words behind it. -/
def readTask (command : String) (words : List String) : Option Task :=
  if command = "check" then if words.all (· = "--") && words.length ≤ 1 then some .check else none
  else if command = "evaluate" then
    (readTail none none false false words).map fun (file, _) => .evaluate (file.getD "-")
  else if command = "route" then
    (readTail (some "--direct") none false false words).map fun (file, direct) =>
      .route (file.getD "-") direct
  else none

/-- The options with a rule file, unless they have one or it has no name. -/
def Options.withRules (o : Options) (path : String) : Option Options :=
  if o.rules.isSome || path = "" then none else some { o with rules := some path }

/-- The value of an option that is written into the same word. -/
def attached? (word : String) : Option String :=
  match word.toList with
  | '-' :: '-' :: 'r' :: 'u' :: 'l' :: 'e' :: 's' :: '=' :: value => some (String.ofList value)
  | '-' :: 'r' :: '=' :: value => some (String.ofList value)
  | '-' :: 'r' :: c :: value => some (String.ofList (c :: value))
  | _ => none

/-- The word asks for the version. -/
def asksVersion (word : String) : Bool :=
  word = "--version" || ['-', 'V'].isPrefixOf word.toList

/-- What a command line asks for; nothing if it makes no sense. -/
def read (o : Options) : List String → Option Ask
  | [] => none
  | word :: rest =>
    if asksVersion word then some .version
    else if word = "--pretty" then if o.pretty then none else read { o with pretty := true } rest
    else if word = "--rules" || word = "-r" then
      match rest with
      | [] => none
      | value :: rest =>
        if isOption value then none else (o.withRules value).bind fun o => read o rest
    else
      match attached? word with
      | some value => (o.withRules value).bind fun o => read o rest
      | none => (readTask word rest).map fun t => .run o t

/-! ## 2. What a run leaves -/

/-- What a run leaves: the number it ends with, what it prints, and what it complains of. -/
structure Outcome where
  code : Nat
  output : String
  fault : Option String
  /-- Why the settings were not used. -/
  warning : Option String
  deriving DecidableEq

/-- What a task leaves: what it prints, and why it has no answer. -/
structure Effect where
  printed : Option Json
  fault : Option CommandFault

/-- The effect of an answer. -/
def Effect.ofAnswer (r : Except CommandFault Json) : Effect :=
  match r with
  | .ok v => ⟨some v, none⟩
  | .error e => ⟨none, some e⟩

/-- A value in a line of its own. -/
def line (pretty : Bool) (v : Json) : String := (if pretty then v.pretty else v.compact) ++ "\n"

/-- The outcome of a task. -/
def Outcome.of (pretty : Bool) (warning : Option String) (e : Effect) : Outcome where
  code := if e.fault.isSome then 1 else 0
  output := (e.printed.map (line pretty)).getD ""
  fault := e.fault.map CommandFault.message
  warning := warning

/-- The outcome of a command line that makes no sense. -/
def Outcome.senseless : Outcome := ⟨2, "", none, none⟩

/-- The name of the program and its version. -/
def versionText : String := "lead-router 0.1.0"

variable [Zones]

/-! ## 3. Tasks -/

/-- The effect of checking a rule set. -/
def checkEffect (path : String) (rules : Except RuleFault RuleSet) : Effect :=
  match rules with
  | .error e => ⟨none, some (.rules e)⟩
  | .ok s =>
    let report := s.report path
    ⟨some (.ofList (fun f => .text f.describe) report.findings),
      if report.isOk then none else some (.findings report.summary)⟩

/-- The request of a text, read by a decoder. -/
def requestOf {α : Type} (decode : Decoder α) (path : String) (text : Except ReadFault String) :
    Except CommandFault α :=
  match text with
  | .error e => .error (.unreadRequest path e.message)
  | .ok s =>
    match (Json.document? s).map decode with
    | some (.ok q) => .ok q
    | _ => .error (.badRequest path)

variable {m : Type → Type} [Monad m]

/-- The world of a run: the files, what is fed to the program, and the variables. -/
structure World (m : Type → Type) where
  files : Files m
  input : m (Except ReadFault String)
  environment : List (String × String)

/-- The text of a request. -/
def World.request (w : World m) (path : String) : m (Except ReadFault String) :=
  if path = "-" then w.input else w.files.read path

/-- The rule set of the settings. -/
def loadRules (w : World m) (s : Settings) : m (Except CommandFault RuleSet) := do
  return (← RuleSet.load w.files s.rulesPath s.stage.strict).mapError CommandFault.rules

/-- The rule set that a request to evaluate needs; with conditions of its own it needs none. -/
def rulesFor (w : World m) (s : Settings) (q : EvaluateRequest) :
    m (Except CommandFault (Option RuleSet)) := do
  if q.conditions.isSome then return .ok none
  else
    let rules ← loadRules w s
    return rules.map some

/-- The answer to a request to evaluate. -/
def evaluateTask (w : World m) (s : Settings) (path : String) : m (Except CommandFault Json) := do
  match requestOf EvaluateRequest.decode path (← w.request path) with
  | .error e => return .error e
  | .ok q =>
    let rules ← rulesFor w s q
    return do
      let rules ← rules
      let tenant ← s.zone.mapError CommandFault.settings
      let verdicts ← evaluateCommand rules q tenant
      return .ofList RuleVerdict.toJson verdicts

/-- The answer to a request to route; a direct one needs no rule set. -/
def routeTask (w : World m) (s : Settings) (path : String) (direct : Bool) :
    m (Except CommandFault Json) := do
  match requestOf RouteRequest.decode path (← w.request path) with
  | .error e => return .error e
  | .ok q =>
    if direct then return (routeCommand none q s).map RouteAnswer.toJson
    else
      let rules ← loadRules w s
      return rules.bind fun rules => (routeCommand (some rules) q s).map RouteAnswer.toJson

/-- What a task leaves. -/
def perform (w : World m) (s : Settings) : Task → m Effect
  | .check => return checkEffect s.rulesPath (← RuleSet.read w.files s.rulesPath)
  | .evaluate path => return .ofAnswer (← evaluateTask w s path)
  | .route path direct => return .ofAnswer (← routeTask w s path direct)

/-! ## 4. Runs -/

/-- The settings to run with, and why they are not those that were set. -/
def settingsFor (loaded : Except SettingsFault Settings) : Settings × Option String :=
  match loaded with
  | .ok s => (s, none)
  | .error .unreadable => (.standard, some SettingsFault.unreadableLead)
  | .error e => (.standard, some (e.message ++ ". Using defaults."))

/-- The settings with the rule file of the options. -/
def withOptions (o : Options) (s : Settings) : Settings :=
  { s with rulesPath := o.rules.getD s.rulesPath }

/-- A run of the program with the words of its command line. -/
def run (w : World m) (words : List String) : m Outcome := do
  match read ⟨none, false⟩ words with
  | none => return .senseless
  | some .version => return ⟨0, versionText ++ "\n", none, none⟩
  | some (.run options task) =>
    let stage := Json.lookup? "LEAD_ROUTER_ENV" w.environment
    let (settings, warning) := settingsFor (← Settings.load w.files stage w.environment)
    return .of options.pretty warning (← perform w (withOptions options settings) task)

end LeadRouting.CommandLine
