import LeadRouting.Lead.Context
import LeadRouting.Text.Alike

/-!
# Conditions on the listing: place and price

A geography condition names places that are wanted and places that are not. A listing lies in a set
of places as soon as **one of its state, city and postal code is listed**. A condition that wants
places fails without a listing; one that only excludes places passes then.

A price band bounds the price of the listing, in its own currency if both sides name one. A band
without bounds passes, whatever the listing.
-/

namespace LeadRouting

/-! ## 1. Places -/

/-- A set of places. -/
structure Places where
  states : List String
  cities : List String
  postalCodes : List String
  deriving DecidableEq

namespace Places

/-- The set has no entry. -/
def isEmpty (p : Places) : Bool := p.states.isEmpty && p.cities.isEmpty && p.postalCodes.isEmpty

/-- The first field of a listing that the set lists. -/
def fieldOf? (p : Places) (l : Listing) : Option String :=
  if Text.listed p.states l.state then some "state"
  else if Text.listed p.cities l.city then some "city"
  else if Text.listed p.postalCodes l.postalCode then some "postalCode"
  else none

/-- The first field of the listing that the set lists, if there is a listing. -/
def matching? (p : Places) (listing : Option Listing) : Option String := listing.bind p.fieldOf?

/-- Reads a set of places. -/
def decode : Decoder Places :=
  Fields.decoder
    (Places.mk
      <$> .withDefault "states" (.list Decoder.text) []
      <*> .withDefault "cities" (.list Decoder.text) []
      <*> .withDefault "postalCodes" (.list Decoder.text) [])
    true

/-- The set of places as a value. -/
def toJson (p : Places) : Json := .record
  [ ("states", .ofList Json.text p.states),
    ("cities", .ofList Json.text p.cities),
    ("postalCodes", .ofList Json.text p.postalCodes) ]

end Places

/-! ## 2. Geography -/

/-- The places that are wanted and the places that are not. -/
structure Geography where
  included : Option Places
  excluded : Option Places
  deriving DecidableEq

namespace Geography

/-- Why the listing lies in no wanted place. -/
def missing? (g : Geography) (listing : Option Listing) : Option String :=
  match g.included with
  | none => none
  | some places =>
    if places.isEmpty || (places.matching? listing).isSome then none
    else if listing.isNone then some "no listing to match included geography"
    else some "listing outside included geography"

/-- Why the listing lies in an unwanted place. -/
def unwanted? (g : Geography) (listing : Option Listing) : Option String :=
  (g.excluded.bind fun places => places.matching? listing).map fun field =>
    "listing " ++ field ++ " is excluded"

/-- Why the condition fails, if it does. -/
def failure? (g : Geography) (listing : Option Listing) : Option String :=
  (g.missing? listing).or (g.unwanted? listing)

/-- Reads a geography condition. -/
def decode : Decoder Geography :=
  Fields.decoder
    (Geography.mk
      <$> .optional "include" Places.decode
      <*> .optional "exclude" Places.decode)
    true

/-- The condition as a value. -/
def toJson (g : Geography) : Json := .record
  [ ("include", .ofOption Places.toJson g.included),
    ("exclude", .ofOption Places.toJson g.excluded) ]

end Geography

/-! ## 3. Price bands -/

/-- The bounds of a price. -/
structure PriceBand where
  min : Option Float
  max : Option Float
  currency : Option String
  deriving DecidableEq

namespace PriceBand

/-- The band has a bound. -/
def bounded (b : PriceBand) : Bool := b.min.isSome || b.max.isSome

/-- Why the currency of the listing is another one; if one side names none there is no reason. -/
def otherCurrency? (b : PriceBand) (l : Listing) : Option String :=
  match b.currency, l.currency with
  | some wanted, some actual =>
    if Text.alike wanted actual then none
    else some ("currency " ++ actual ++ " does not match " ++ wanted)
  | _, _ => none

/-- Why a price lies outside the bounds. -/
def outside? (b : PriceBand) (price : Float) : Option String :=
  let low := b.min.bind fun min =>
    if Number.lt price min then
      some ("price " ++ Number.Layout.message.write price ++ " below " ++
        Number.Layout.message.write min)
    else none
  let high := b.max.bind fun max =>
    if Number.lt max price then
      some ("price " ++ Number.Layout.message.write price ++ " above " ++
        Number.Layout.message.write max)
    else none
  low.or high

/-- Why a listing does not fit a band with bounds. -/
def unfit? (b : PriceBand) (l : Listing) : Option String :=
  match l.price with
  | none => some "listing price unknown"
  | some price => (b.otherCurrency? l).or (b.outside? price)

/-- Why the condition fails, if it does. -/
def failure? (b : PriceBand) (listing : Option Listing) : Option String :=
  if b.bounded then
    match listing with
    | none => some "no listing"
    | some l => b.unfit? l
  else none

/-- Reads a price band. -/
def decode : Decoder PriceBand :=
  Fields.decoder
    (PriceBand.mk
      <$> .optional "min" Decoder.float
      <*> .optional "max" Decoder.float
      <*> .optional "currency" Decoder.text)
    true

/-- The price band as a value. -/
def toJson (b : PriceBand) : Json := .record
  [ ("min", .ofOption Json.ofFloat b.min),
    ("max", .ofOption Json.ofFloat b.max),
    ("currency", .ofOption Json.text b.currency) ]

end PriceBand

end LeadRouting
