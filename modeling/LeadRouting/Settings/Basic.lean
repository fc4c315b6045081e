import LeadRouting.Rule.Finding
import LeadRouting.Time.Zone

/-!
# Settings

What is set once for a tenant: the stage it runs in, the policy where no rule and no request names
one, where its rules lie and what its zone is. Settings have no names of their own for the fields of
a policy, which may be spelled in both ways, and a name that is no field is passed over everywhere
else.

**Settings are all right if the zone is known and the policy has no serious finding**; the zone is
looked at first.
-/

namespace LeadRouting

/-! ## 1. Types -/

/-- The stage that a tenant runs in. -/
inductive Stage where
  | development | staging | production
  deriving DecidableEq

namespace Stage

/-- Every stage. -/
def all : List Stage := [.development, .staging, .production]

/-- The name of a stage in documents. -/
def name : Stage → String
  | .development => "development"
  | .staging => "staging"
  | .production => "production"

/-- Warnings keep a rule set from being used. -/
def strict (s : Stage) : Bool := s = .production || s = .staging

end Stage

/-- How much is written down while running, and in which form. -/
structure Logging where
  level : String
  json : Bool
  deriving DecidableEq

/-- What is set for a tenant. -/
structure Settings where
  stage : Stage
  policy : Policy
  rulesPath : String
  zoneName : String
  logging : Logging
  deriving DecidableEq

/-- Why settings cannot be used. -/
inductive SettingsFault where
  /-- The text is no document, or the document no settings. -/
  | unreadable
  | invalid (field message : String)
  deriving DecidableEq

/-- The start of what is said of settings that cannot be read. -/
def SettingsFault.unreadableLead : String := "Failed to parse configuration"

/-- The fault in words. -/
def SettingsFault.message : SettingsFault → String
  | .unreadable => unreadableLead
  | .invalid field message => "Invalid value for " ++ field ++ ": " ++ message

namespace Logging

/-- The logging where nothing is set. -/
def standard : Logging := ⟨"info", false⟩

/-- Reads the logging. -/
def decode : Decoder Logging :=
  Fields.decoder
    (Logging.mk
      <$> .withDefault "log_level" Decoder.text standard.level
      <*> .withDefault "log_json" Decoder.bool standard.json)
    false

/-- The logging as a value. -/
def toJson (l : Logging) : Json :=
  .record [("log_level", .text l.level), ("log_json", .bool l.json)]

end Logging

namespace Settings

/-- The settings where nothing is set. -/
def standard : Settings := ⟨.development, .standard, "config/rules.yaml", "UTC", .standard⟩

variable [Zones]

/-! ## 2. Faults -/

/-- The zone of the tenant. -/
def zone (s : Settings) : Except SettingsFault Zone :=
  match Zone.ofName? s.zoneName with
  | some z => .ok z
  | none => .error (.invalid "default_timezone" ("Unknown timezone '" ++ s.zoneName ++ "'"))

/-- The fault of a finding. -/
def faultOf (f : Finding) : SettingsFault := .invalid (f.field.getD "") f.message

/-- The first fault of the settings. -/
def fault? (s : Settings) : Option SettingsFault :=
  match s.zone with
  | .error e => some e
  | .ok _ => ((s.policy.findings "settings" "routing").find? Finding.serious).map faultOf

/-- The settings, if nothing is wrong with them. -/
def validated (s : Settings) : Except SettingsFault Settings :=
  match s.fault? with
  | some e => .error e
  | none => .ok s

/-! ## 3. As values -/

/-- Reads settings. -/
def decode : Decoder Settings :=
  Fields.decoder
    (Settings.mk
      <$> .withDefault "environment" (.named Stage.all Stage.name) standard.stage
      <*> .withDefault "routing" Policy.decode standard.policy
      <*> .withDefault "rules_path" Decoder.text standard.rulesPath
      <*> .withDefault "default_timezone" Decoder.text standard.zoneName
      <*> .withDefault "observability" Logging.decode standard.logging)
    false

/-- The settings as a value. -/
def toJson (s : Settings) : Json := .record
  [ ("environment", .text s.stage.name),
    ("routing", s.policy.toJson),
    ("rules_path", .text s.rulesPath),
    ("default_timezone", .text s.zoneName),
    ("observability", s.logging.toJson) ]

end Settings

end LeadRouting
