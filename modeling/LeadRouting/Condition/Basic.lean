import LeadRouting.Condition.CustomField
import LeadRouting.Condition.Geography
import LeadRouting.Condition.Person
import LeadRouting.Condition.Window

/-!
# Conditions

The conditions of a rule fall into eight categories, each of which may be left out. **A category
that is left out is not tested**; in a document it is not written either, so that a category that is
there and empty stays different from one that is not.
-/

namespace LeadRouting

variable [Zones]

/-- The conditions of a rule. -/
structure Conditions where
  geography : Option Geography
  priceBand : Option PriceBand
  sources : Option SourceFilter
  consent : Option ConsentCondition
  representation : Option RepresentationDemand
  windows : Option (List Window)
  demographics : Option Demographics
  customFields : Option (List FieldTest)

namespace Conditions

/-- Conditions that ask for nothing. -/
def none : Conditions :=
  ⟨.none, .none, .none, .none, .none, .none, .none, .none⟩

/-- No category is there. -/
def isEmpty (c : Conditions) : Bool :=
  c.geography.isNone && c.priceBand.isNone && c.sources.isNone && c.consent.isNone &&
    c.representation.isNone && c.windows.isNone && c.demographics.isNone && c.customFields.isNone

/-- Reads conditions. -/
def decode : Decoder Conditions :=
  Fields.decoder
    (Conditions.mk
      <$> .optional "geography" Geography.decode
      <*> .optional "priceBand" PriceBand.decode
      <*> .optional "sources" SourceFilter.decode
      <*> .optional "consent" ConsentCondition.decode
      <*> .optional "buyerRep" (.named RepresentationDemand.all RepresentationDemand.name)
      <*> .optional "timeWindows" (.list Window.decode)
      <*> .optional "demographics" Demographics.decode
      <*> .optional "customFields" (.list FieldTest.decode))
    true

/-- An entry of a record, unless there is nothing to write. -/
def entry {α : Type} (name : String) (f : α → Json) (a : Option α) : List (String × Json) :=
  (a.map fun a => (name, f a)).toList

/-- The conditions as a value, without the categories that are left out. -/
def toJson (c : Conditions) : Json := .record <|
  entry "geography" Geography.toJson c.geography ++
  entry "priceBand" PriceBand.toJson c.priceBand ++
  entry "sources" SourceFilter.toJson c.sources ++
  entry "consent" ConsentCondition.toJson c.consent ++
  entry "buyerRep" (fun d => .text d.name) c.representation ++
  entry "timeWindows" (.ofList Window.toJson) c.windows ++
  entry "demographics" Demographics.toJson c.demographics ++
  entry "customFields" (.ofList FieldTest.toJson) c.customFields

end Conditions

end LeadRouting
