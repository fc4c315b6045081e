import LeadRouting.Document.Decode
import LeadRouting.Time.Instant

/-!
# What is known of a lead

A context holds the facts that conditions are tested against: the instant, the zone of the tenant,
the person behind the lead and the listing the lead asked about, if there is one. Every fact but the
instant may be missing.
-/

namespace LeadRouting

/-! ## 1. Persons -/

/-- What a person has said to being contacted over a channel. -/
inductive ConsentState where
  | granted | revoked | unknown
  deriving DecidableEq

namespace ConsentState

/-- Every state. -/
def all : List ConsentState := [.granted, .revoked, .unknown]

/-- The name of a state in documents. -/
def name : ConsentState → String
  | .granted => "GRANTED"
  | .revoked => "REVOKED"
  | .unknown => "UNKNOWN"

end ConsentState

/-- The state of consent, channel by channel. -/
structure ChannelConsent where
  sms : ConsentState
  email : ConsentState
  deriving DecidableEq

/-- Whether an agreement on representing the buyer exists. -/
inductive Representation where
  | none | pending | active | expired
  deriving DecidableEq

namespace Representation

/-- Every stage of an agreement. -/
def all : List Representation := [.none, .pending, .active, .expired]

/-- The name of a stage in documents. -/
def name : Representation → String
  | .none => "NONE"
  | .pending => "PENDING"
  | .active => "ACTIVE"
  | .expired => "EXPIRED"

end Representation

/-- The person behind a lead. -/
structure Person where
  source : Option String
  representation : Representation
  tags : List String
  age : Option UInt32
  languages : List String
  ethnicities : List String
  /-- The free fields, ascending by their names. -/
  customFields : List (String × Json)
  consent : ChannelConsent

/-- A person of whom nothing is known. -/
def Person.unknown : Person where
  source := none
  representation := .none
  tags := []
  age := none
  languages := []
  ethnicities := []
  customFields := []
  consent := ⟨.unknown, .unknown⟩

/-! ## 2. Listings and contexts -/

/-- The listing that a lead asked about. -/
structure Listing where
  price : Option Float
  currency : Option String
  city : Option String
  state : Option String
  postalCode : Option String
  deriving DecidableEq

variable [Zones]

/-- The facts that conditions are tested against. -/
structure Context where
  now : Instant
  /-- The zone of the windows that name none. -/
  zone : Zone
  person : Person
  listing : Option Listing

/-- The context at an instant, in UTC, with nothing else known. -/
def Context.at (now : Instant) : Context := ⟨now, .utc, .unknown, none⟩

/-! ## 3. As values -/

/-- Reads an instant. -/
def Instant.decode : Decoder Instant := .spelledAs Instant.read? fun _ => .unreadable

/-- Reads a zone. -/
def Zone.decode : Decoder Zone := .spelledAs Zone.ofName? fun _ => .unreadable

/-- Reads the state of consent over the channels. -/
def ChannelConsent.decode : Decoder ChannelConsent :=
  let state : Decoder ConsentState := .named ConsentState.all ConsentState.name
  Fields.decoder
    (ChannelConsent.mk
      <$> .withDefault "sms" state .unknown
      <*> .withDefault "email" state .unknown)
    false

/-- The state of consent as a value. -/
def ChannelConsent.toJson (c : ChannelConsent) : Json := .record
  [("sms", .text c.sms.name), ("email", .text c.email.name)]

/-- Reads a person. -/
def Person.decode : Decoder Person :=
  Fields.decoder
    (Person.mk
      <$> .optional "source" Decoder.text
      <*> .withDefault "buyerRepStatus" (.named Representation.all Representation.name) .none
      <*> .withDefault "tags" (.list Decoder.text) []
      <*> .optional "age" Decoder.uint32
      <*> .withDefault "languages" (.list Decoder.text) []
      <*> .withDefault "ethnicities" (.list Decoder.text) []
      <*> .withDefault "customFields" Decoder.table []
      <*> .withDefault "consent" ChannelConsent.decode ⟨.unknown, .unknown⟩)
    false

/-- The person as a value. -/
def Person.toJson (p : Person) : Json := .record
  [ ("source", .ofOption Json.text p.source),
    ("buyerRepStatus", .text p.representation.name),
    ("tags", .ofList Json.text p.tags),
    ("age", .ofOption (fun n => .int n.toNat) p.age),
    ("languages", .ofList Json.text p.languages),
    ("ethnicities", .ofList Json.text p.ethnicities),
    ("customFields", .record p.customFields),
    ("consent", p.consent.toJson) ]

/-- Reads a listing. -/
def Listing.decode : Decoder Listing :=
  Fields.decoder
    (Listing.mk
      <$> .optional "price" Decoder.float
      <*> .optional "currency" Decoder.text
      <*> .optional "city" Decoder.text
      <*> .optional "state" Decoder.text
      <*> .optional "postalCode" Decoder.text)
    false

/-- The listing as a value. -/
def Listing.toJson (l : Listing) : Json := .record
  [ ("price", .ofOption Json.ofFloat l.price),
    ("currency", .ofOption Json.text l.currency),
    ("city", .ofOption Json.text l.city),
    ("state", .ofOption Json.text l.state),
    ("postalCode", .ofOption Json.text l.postalCode) ]

/-- Reads a context. -/
def Context.decode : Decoder Context :=
  Fields.decoder
    (Context.mk
      <$> .required "now" Instant.decode
      <*> .withDefault "timezone" Zone.decode .utc
      <*> .withDefault "person" Person.decode .unknown
      <*> .optional "listing" Listing.decode)
    false

/-- The context as a value. -/
def Context.toJson (c : Context) : Json := .record
  [ ("now", .text c.now.write),
    ("timezone", .text c.zone.name),
    ("person", c.person.toJson),
    ("listing", .ofOption Listing.toJson c.listing) ]

end LeadRouting
