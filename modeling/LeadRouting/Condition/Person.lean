import LeadRouting.Lead.Context
import LeadRouting.Text.Alike

/-!
# Conditions on the person

Where a lead comes from, what the person has consented to, whether an agreement on representing the
buyer is in force, and who the person is.

* **Exclusion wins over inclusion**, and a list of wanted entries fails if nothing is known.
* A bound on the age fails if the age is unknown.
* An ethnicity may also stand among the tags.
-/

namespace LeadRouting

/-! ## 1. Sources -/

/-- The sources that are wanted and the sources that are not. -/
structure SourceFilter where
  included : List String
  excluded : List String
  deriving DecidableEq

namespace SourceFilter

/-- Why the source is not one of the wanted ones; an empty list wants every source. -/
def missing? (f : SourceFilter) (source : Option String) : Option String :=
  if f.included.isEmpty || Text.listed f.included source then none
  else
    match source with
    | some s => some ("source '" ++ s ++ "' not included")
    | none => some "lead has no source"

/-- Why the source is an unwanted one. -/
def unwanted? (f : SourceFilter) (source : Option String) : Option String :=
  if Text.listed f.excluded source then some ("source '" ++ source.getD "" ++ "' is excluded")
  else none

/-- Why the condition fails, if it does. -/
def failure? (f : SourceFilter) (p : Person) : Option String :=
  (f.missing? p.source).or (f.unwanted? p.source)

/-- Reads a condition on the source. -/
def decode : Decoder SourceFilter :=
  Fields.decoder
    (SourceFilter.mk
      <$> .withDefault "include" (.list Decoder.text) []
      <*> .withDefault "exclude" (.list Decoder.text) [])
    true

/-- The condition as a value. -/
def toJson (f : SourceFilter) : Json := .record
  [("include", .ofList Json.text f.included), ("exclude", .ofList Json.text f.excluded)]

end SourceFilter

/-! ## 2. Consent -/

/-- What a channel has to be allowed. -/
inductive ConsentDemand where
  | any | granted | notRevoked
  deriving DecidableEq

namespace ConsentDemand

/-- Every demand. -/
def all : List ConsentDemand := [.any, .granted, .notRevoked]

/-- The name of a demand in documents. -/
def name : ConsentDemand → String
  | .any => "OPTIONAL"
  | .granted => "GRANTED"
  | .notRevoked => "NOT_REVOKED"

/-- The state of consent meets the demand. -/
def met : ConsentDemand → ConsentState → Bool
  | .any, _ => true
  | .granted, s => s = .granted
  | .notRevoked, s => s ≠ .revoked

end ConsentDemand

/-- What the channels have to be allowed. -/
structure ConsentCondition where
  sms : Option ConsentDemand
  email : Option ConsentDemand
  deriving DecidableEq

namespace ConsentCondition

/-- Why the consent over one channel is not enough. -/
def channelFailure? (channel : String) (demand : Option ConsentDemand) (state : ConsentState) :
    Option String :=
  demand.bind fun d =>
    if d.met state then none else some (channel ++ " consent is " ++ state.name)

/-- Why the condition fails, if it does, channel by channel. -/
def failure? (c : ConsentCondition) (p : Person) : Option String :=
  let reasons := [ channelFailure? "sms" c.sms p.consent.sms,
    channelFailure? "email" c.email p.consent.email ].filterMap id
  if reasons.isEmpty then none else some (String.intercalate "; " reasons)

/-- Reads a condition on consent. -/
def decode : Decoder ConsentCondition :=
  let demand : Decoder ConsentDemand := .named ConsentDemand.all ConsentDemand.name
  Fields.decoder (ConsentCondition.mk <$> .optional "sms" demand <*> .optional "email" demand) true

/-- The condition as a value. -/
def toJson (c : ConsentCondition) : Json := .record
  [ ("sms", .ofOption (fun d => .text d.name) c.sms),
    ("email", .ofOption (fun d => .text d.name) c.email) ]

end ConsentCondition

/-! ## 3. Representation -/

/-- What an agreement on representing the buyer has to be. -/
inductive RepresentationDemand where
  | any | active | notActive
  deriving DecidableEq

namespace RepresentationDemand

/-- Every demand. -/
def all : List RepresentationDemand := [.any, .active, .notActive]

/-- The name of a demand in documents. -/
def name : RepresentationDemand → String
  | .any => "ANY"
  | .active => "REQUIRED_ACTIVE"
  | .notActive => "PROHIBIT_ACTIVE"

/-- Why the condition fails, if it does. -/
def failure? : RepresentationDemand → Person → Option String
  | .any, _ => none
  | .active, p =>
    if p.representation = .active then none else some "active buyer representation required"
  | .notActive, p =>
    if p.representation = .active then some "lead already has active buyer representation" else none

end RepresentationDemand

/-! ## 4. Demographics -/

/-- How many of the wanted values have to be there. -/
inductive MatchMode where
  | any | all
  deriving DecidableEq

/-- The name of a mode in documents. -/
def MatchMode.name : MatchMode → String
  | .any => "ANY"
  | .all => "ALL"

/-- The values that are wanted and the values that are not. -/
structure MemberFilter where
  included : List String
  excluded : List String
  mode : MatchMode
  deriving DecidableEq

namespace MemberFilter

/-- The filter has no entry. -/
def isEmpty (f : MemberFilter) : Bool := f.included.isEmpty && f.excluded.isEmpty

/-- A value is carried, in some spelling. -/
def carries (values : List String) (wanted : String) : Bool :=
  values.any fun v => Text.alike v wanted

/-- Why wanted values are not there. -/
def missing? (f : MemberFilter) (values : List String) : Option String :=
  if f.included.isEmpty then none
  else
    match f.mode with
    | .any =>
      if f.included.any (carries values) then none
      else some ("none of [" ++ String.intercalate ", " f.included ++ "] present")
    | .all => (f.included.find? fun i => !carries values i).map fun i => "'" ++ i ++ "' missing"

/-- Why the values do not pass the filter, if they do not. -/
def failure? (f : MemberFilter) (values : List String) : Option String :=
  ((f.excluded.find? (carries values)).map fun e => "'" ++ e ++ "' is excluded").or
    (f.missing? values)

/-- Reads a filter. -/
def decode : Decoder MemberFilter :=
  Fields.decoder
    (MemberFilter.mk
      <$> .withDefault "include" (.list Decoder.text) []
      <*> .withDefault "exclude" (.list Decoder.text) []
      <*> .withDefault "match" (.named [.any, .all] MatchMode.name) .any)
    true

/-- The filter as a value. -/
def toJson (f : MemberFilter) : Json := .record
  [ ("include", .ofList Json.text f.included),
    ("exclude", .ofList Json.text f.excluded),
    ("match", .text f.mode.name) ]

end MemberFilter

/-- Who the person has to be. -/
structure Demographics where
  minAge : Option UInt32
  maxAge : Option UInt32
  tags : Option MemberFilter
  languages : Option MemberFilter
  ethnicities : Option MemberFilter
  deriving DecidableEq

namespace Demographics

/-- Why an age lies outside the bounds. -/
def outside? (d : Demographics) (age : UInt32) : Option String :=
  let low := d.minAge.bind fun min =>
    if age < min then some ("age " ++ toString age.toNat ++ " below " ++ toString min.toNat)
    else none
  let high := d.maxAge.bind fun max =>
    if max < age then some ("age " ++ toString age.toNat ++ " above " ++ toString max.toNat)
    else none
  low.or high

/-- Why the age does not fit. -/
def ageFailure? (d : Demographics) (age : Option UInt32) : Option String :=
  if d.minAge.isSome || d.maxAge.isSome then
    match age with
    | none => some "age unknown"
    | some n => d.outside? n
  else none

/-- Why the values under a heading do not pass their filter. -/
def filterFailure? (heading : String) (f : Option MemberFilter) (values : List String) :
    Option String :=
  (f.bind fun f => f.failure? values).map fun reason => heading ++ ": " ++ reason

/-- Why the condition fails, if it does. -/
def failure? (d : Demographics) (p : Person) : Option String :=
  (d.ageFailure? p.age)
    |>.or (filterFailure? "tags" d.tags p.tags)
    |>.or (filterFailure? "languages" d.languages p.languages)
    |>.or (filterFailure? "ethnicities" d.ethnicities (p.ethnicities ++ p.tags))

/-- Reads a condition on who the person is. -/
def decode : Decoder Demographics :=
  Fields.decoder
    (Demographics.mk
      <$> .optional "minAge" Decoder.uint32
      <*> .optional "maxAge" Decoder.uint32
      <*> .optional "tags" MemberFilter.decode
      <*> .optional "languages" MemberFilter.decode
      <*> .optional "ethnicities" MemberFilter.decode)
    true

/-- The condition as a value. -/
def toJson (d : Demographics) : Json := .record
  [ ("minAge", .ofOption (fun n => .int n.toNat) d.minAge),
    ("maxAge", .ofOption (fun n => .int n.toNat) d.maxAge),
    ("tags", .ofOption MemberFilter.toJson d.tags),
    ("languages", .ofOption MemberFilter.toJson d.languages),
    ("ethnicities", .ofOption MemberFilter.toJson d.ethnicities) ]

end Demographics

end LeadRouting
