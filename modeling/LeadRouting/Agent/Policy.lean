import LeadRouting.Document.Decode

/-!
# Scoring policies

A policy gives each of the four factors of a score its weight and sets the floor that a score has to
reach. **Weights are taken as they are**: that they add up to one is expected, but no score is ever
scaled to make it so.

In a document every weight has two spellings; giving both is giving it twice.
-/

namespace LeadRouting

/-- The weights of the factors and the floor of a score. -/
structure Policy where
  floor : Float
  performance : Float
  capacity : Float
  geography : Float
  priceBand : Float
  deriving DecidableEq

/-- How much a lead makes of the two fits, each from zero to one. -/
structure Importance where
  geography : Float
  priceBand : Float
  deriving DecidableEq

namespace Policy

/-- The policy where nothing else is said. -/
def standard : Policy where
  floor := 0.0
  performance := 0.25
  capacity := 0.35
  geography := 0.2
  priceBand := 0.2

instance : Inhabited Policy := ⟨standard⟩

/-- The sum of the weights. -/
def weightSum (p : Policy) : Float := p.performance + p.capacity + p.geography + p.priceBand

/-- The fields of a policy. -/
def fields : Fields Policy :=
  Policy.mk
    <$> .spelled "minimumScore" ["minimum_score"] Decoder.float (some standard.floor)
    <*> .spelled "performanceWeight" ["performance_weight"] Decoder.float
      (some standard.performance)
    <*> .spelled "capacityWeight" ["capacity_weight"] Decoder.float (some standard.capacity)
    <*> .spelled "geographyWeight" ["geography_weight"] Decoder.float (some standard.geography)
    <*> .spelled "priceBandWeight" ["price_band_weight"] Decoder.float (some standard.priceBand)

/-- Reads a policy; a name that is no field is refused. -/
def decode : Decoder Policy := fields.decoder true

/-- The policy as a value. -/
def toJson (p : Policy) : Json := .record
  [ ("minimumScore", .ofFloat p.floor),
    ("performanceWeight", .ofFloat p.performance),
    ("capacityWeight", .ofFloat p.capacity),
    ("geographyWeight", .ofFloat p.geography),
    ("priceBandWeight", .ofFloat p.priceBand) ]

end Policy

namespace Importance

/-- A lead to which the fits mean nothing. -/
def none : Importance := ⟨0.0, 0.0⟩

instance : Inhabited Importance := ⟨none⟩

/-- Reads an importance. -/
def decode : Decoder Importance :=
  Fields.decoder
    (Importance.mk
      <$> .required "geography" Decoder.float
      <*> .required "priceBand" Decoder.float)
    false

/-- The importance as a value. -/
def toJson (i : Importance) : Json := .record
  [("geography", .ofFloat i.geography), ("priceBand", .ofFloat i.priceBand)]

end Importance

end LeadRouting
