import LeadRouting.Proofs.Following
import LeadRouting.Rule.Set
import LeadRouting.Time.ListedZone

/-!
# Nothing that is written in a rule file is passed over

A rule that names a field wrongly must not come to a rule without that field: where `exclude` is
misspelled, nobody would be excluded. This file gives the shape of every type of a rule file, with
the names that it declares, and says of each decoder that it follows its shape.

* `Policy.shape` -- the one record whose fields have two spellings each;
* `Target.shape` -- the three kinds of target, each with fields of its own;
* `FieldTest.shape` -- the value of a test on a custom field is free, and nothing else is;
* **`RuleSet.decode_declared`**: what is read as a rule set has no undeclared name at any depth and
  no field twice; one such name, or one field in both spellings, makes the reading fail.
-/

namespace LeadRouting

open Decoder

/-! ## 1. Categories of conditions -/

/-- A list of texts. -/
def Shape.texts : Shape := .list .scalar

theorem follows_texts : (Decoder.list Decoder.text).Follows .texts := follows_text.list

def Places.shape : Shape := .record
  [(["states"], .texts), (["cities"], .texts), (["postalCodes"], .texts)]

theorem Places.follows_shape : Places.decode.Follows Places.shape :=
  Fields.Follows.decoder (Fields.Follows.map Places.mk (.withDefault follows_texts)
    |>.seq (.withDefault follows_texts) rfl
    |>.seq (.withDefault follows_texts) rfl)

def Geography.shape : Shape := .record
  [(["include"], Places.shape), (["exclude"], Places.shape)]

theorem Geography.follows_shape : Geography.decode.Follows Geography.shape :=
  Fields.Follows.decoder (Fields.Follows.map Geography.mk (.optional Places.follows_shape)
    |>.seq (.optional Places.follows_shape) rfl)

def PriceBand.shape : Shape := .record
  [(["min"], .scalar), (["max"], .scalar), (["currency"], .scalar)]

theorem PriceBand.follows_shape : PriceBand.decode.Follows PriceBand.shape :=
  Fields.Follows.decoder (Fields.Follows.map PriceBand.mk (.optional follows_float)
    |>.seq (.optional follows_float) rfl
    |>.seq (.optional follows_text) rfl)

def SourceFilter.shape : Shape := .record [(["include"], .texts), (["exclude"], .texts)]

theorem SourceFilter.follows_shape : SourceFilter.decode.Follows SourceFilter.shape :=
  Fields.Follows.decoder (Fields.Follows.map SourceFilter.mk (.withDefault follows_texts)
    |>.seq (.withDefault follows_texts) rfl)

def ConsentDemand.shape : Shape := .word (ConsentDemand.all.map ConsentDemand.name)

def ConsentCondition.shape : Shape := .record
  [(["sms"], ConsentDemand.shape), (["email"], ConsentDemand.shape)]

theorem ConsentCondition.follows_shape :
    ConsentCondition.decode.Follows ConsentCondition.shape :=
  Fields.Follows.decoder (Fields.Follows.map ConsentCondition.mk (.optional (follows_named _ _))
    |>.seq (.optional (follows_named _ _)) rfl)

def Window.shape : Shape := .record
  [(["timezone"], .scalar), (["start"], .scalar), (["end"], .scalar), (["days"], .texts)]

theorem Window.follows_shape [Zones] : Window.decode.Follows Window.shape :=
  Fields.Follows.decoder (Fields.Follows.map Window.mk (.optional (follows_spelledAs _ _))
    |>.seq (.required (follows_spelledAs _ _)) rfl
    |>.seq (.required (follows_spelledAs _ _)) rfl
    |>.seq (.optional (follows_spelledAs _ _).list) rfl)

def MemberFilter.shape : Shape := .record
  [ (["include"], .texts), (["exclude"], .texts),
    (["match"], .word ([MatchMode.any, .all].map MatchMode.name)) ]

theorem MemberFilter.follows_shape : MemberFilter.decode.Follows MemberFilter.shape :=
  Fields.Follows.decoder (Fields.Follows.map MemberFilter.mk (.withDefault follows_texts)
    |>.seq (.withDefault follows_texts) rfl
    |>.seq (.withDefault (follows_named _ _)) rfl)

def Demographics.shape : Shape := .record
  [ (["minAge"], .scalar), (["maxAge"], .scalar), (["tags"], MemberFilter.shape),
    (["languages"], MemberFilter.shape), (["ethnicities"], MemberFilter.shape) ]

theorem Demographics.follows_shape : Demographics.decode.Follows Demographics.shape :=
  Fields.Follows.decoder (Fields.Follows.map Demographics.mk (.optional follows_uint32)
    |>.seq (.optional follows_uint32) rfl
    |>.seq (.optional MemberFilter.follows_shape) rfl
    |>.seq (.optional MemberFilter.follows_shape) rfl
    |>.seq (.optional MemberFilter.follows_shape) rfl)

/-- The value that a custom field is compared with may be anything. -/
def FieldTest.shape : Shape := .record
  [(["key"], .scalar), (["operator"], .scalar), (["value"], .free)]

theorem FieldTest.follows_shape : FieldTest.decode.Follows FieldTest.shape :=
  Fields.Follows.decoder (Fields.Follows.map FieldTest.mk (.required follows_text)
    |>.seq (.required (follows_spelledAs _ _)) rfl
    |>.seq (.withDefault (follows_free _)) rfl)

def Conditions.shape : Shape := .record
  [ (["geography"], Geography.shape), (["priceBand"], PriceBand.shape),
    (["sources"], SourceFilter.shape), (["consent"], ConsentCondition.shape),
    (["buyerRep"], .word (RepresentationDemand.all.map RepresentationDemand.name)),
    (["timeWindows"], .list Window.shape), (["demographics"], Demographics.shape),
    (["customFields"], .list FieldTest.shape) ]

theorem Conditions.follows_shape [Zones] : Conditions.decode.Follows Conditions.shape :=
  Fields.Follows.decoder (Fields.Follows.map Conditions.mk (.optional Geography.follows_shape)
    |>.seq (.optional PriceBand.follows_shape) rfl
    |>.seq (.optional SourceFilter.follows_shape) rfl
    |>.seq (.optional ConsentCondition.follows_shape) rfl
    |>.seq (.optional (follows_named _ _)) rfl
    |>.seq (.optional Window.follows_shape.list) rfl
    |>.seq (.optional Demographics.follows_shape) rfl
    |>.seq (.optional FieldTest.follows_shape.list) rfl)

/-! ## 2. Rules -/

/-- Every field of a policy has two spellings. -/
def Policy.shape : Shape := .record
  [ (["minimumScore", "minimum_score"], .scalar),
    (["performanceWeight", "performance_weight"], .scalar),
    (["capacityWeight", "capacity_weight"], .scalar),
    (["geographyWeight", "geography_weight"], .scalar),
    (["priceBandWeight", "price_band_weight"], .scalar) ]

theorem Policy.follows_shape : Policy.decode.Follows Policy.shape :=
  Fields.Follows.decoder (Fields.Follows.map Policy.mk (.spelled follows_float _ _ _)
    |>.seq (.spelled follows_float _ _ _) rfl
    |>.seq (.spelled follows_float _ _ _) rfl
    |>.seq (.spelled follows_float _ _ _) rfl
    |>.seq (.spelled follows_float _ _ _) rfl)

def Target.shape : Shape := .tagged "type"
  [ ("AGENT", [(["agentIds"], .texts)]),
    ("TEAM", [(["teamId"], .scalar),
      (["strategy"], .word ([Strategy.score, .roundRobin].map Strategy.name))]),
    ("POND", [(["pondId"], .scalar)]) ]

theorem Target.follows_shape : Target.decode.Follows Target.shape := by
  refine Fields.Follows.tagged (.cons ⟨rfl, ?_⟩ (.cons ⟨rfl, ?_⟩ (.cons ⟨rfl, ?_⟩ .nil)))
  · exact .map _ (.required follows_texts)
  · exact .seq (.map _ (.required follows_text)) (.withDefault (follows_named _ _)) rfl
  · exact .map _ (.required follows_text)

def Rule.shape : Shape := .record
  [ (["id"], .scalar), (["name"], .scalar), (["priority"], .scalar), (["enabled"], .scalar),
    (["conditions"], Conditions.shape), (["targets"], .list Target.shape),
    (["fallbackTeamId"], .scalar), (["config"], Policy.shape) ]

theorem Rule.follows_shape [Zones] : Rule.decode.Follows Rule.shape :=
  Fields.Follows.decoder (Fields.Follows.map Rule.mk (.required follows_text)
    |>.seq (.optional follows_text) rfl
    |>.seq (.withDefault follows_int32) rfl
    |>.seq (.withDefault follows_bool) rfl
    |>.seq (.optional Conditions.follows_shape) rfl
    |>.seq (.required Target.follows_shape.list) rfl
    |>.seq (.optional follows_text) rfl
    |>.seq (.optional Policy.follows_shape) rfl)

/-! ## 3. Rule sets -/

namespace RuleSet

def shape : Shape := .record [(["rules"], .list Rule.shape)]

section Sets

variable [Zones]

theorem follows_shape : RuleSet.decode.Follows RuleSet.shape :=
  Fields.Follows.decoder (.map _ (.withDefault Rule.follows_shape.list))

/-- **Whatever is read as a rule set is declared at every place**, and there is no part without a
    place but in the values that custom fields are compared with. Where one place has a name that is
    not declared, or a field in two spellings, nothing is read. -/
theorem decode_declared (v : Json) :
    (∀ s, decode (.ofJson v) = .ok s →
      (∀ T w, shape.Place v T w → T.Declares w) ∧
      ∀ w, w.Within v → ¬ w.Bare →
        (∃ T, shape.Place v T w) ∨ ∃ u, shape.Place v .free u ∧ w.Within u) ∧
    ((∃ T w, shape.Place v T w ∧ ¬ T.Declares w) → ∃ e, decode (.ofJson v) = .error e) := by
  refine ⟨fun s hread => ?_, ?_⟩
  · have heverywhere : shape.Everywhere v := follows_shape.ofJson hread
    exact ⟨heverywhere, fun w hin hne => heverywhere.covers hin hne⟩
  · rintro ⟨T, w, hplace, hundeclared⟩
    cases hread : decode (.ofJson v) with
    | error e => exact ⟨e, rfl⟩
    | ok s => exact absurd (follows_shape.ofJson hread T w hplace) hundeclared

end Sets

/-- A rule with a free value is read, the same rule with `exclude` misspelled is not, and neither is
    one with the least score in both spellings. -/
theorem decode_declared_east :
    let rule (more : String × Json) : Json := .record
      [("id", .text "east"), ("targets", .list []), more]
    let rulesWith (more : String × Json) : Json := .record [("rules", .list [rule more])]
    let free := rulesWith ("conditions", .record [("customFields", .list [.record
      [("key", .text "plan"), ("operator", .text "EQUALS"), ("value", .record [("any", .null)])]])])
    let misspelled := rulesWith ("conditions", .record [("geography", .record
      [("exclud", .record [("states", .list [.text "CO"])])])])
    let doubled := rulesWith ("config", .record
      [("minimumScore", .float 0.5), ("minimum_score", .float 0.5)])
    (∃ s, decode (.ofJson free) = .ok s) ∧ (∀ T w, shape.Place free T w → T.Declares w) ∧
      (∃ e, decode (.ofJson misspelled) = .error e) ∧
      ∃ e, decode (.ofJson doubled) = .error e := by
  intro rule rulesWith free misspelled doubled
  obtain ⟨s, hfree⟩ : ∃ s, decode (.ofJson free) = .ok s := ⟨_, rfl⟩
  have hplace : ∀ {more T u}, Rule.shape.Place (rule more) T u →
      shape.Place (rulesWith more) T u := by
    intro more T u hrest
    exact .within (.field (.head _) (.head _) (.head _)) (.within (.item (.head _)) hrest)
  have hconditions : ∀ w, Rule.shape.Part (rule ("conditions", w)) Conditions.shape w := fun w =>
    .field (.tail _ (.tail _ (.tail _ (.tail _ (.head _))))) (.head _) (.tail _ (.tail _ (.head _)))
  have hconfig : ∀ w, Rule.shape.Part (rule ("config", w)) Policy.shape w := fun w =>
    .field (List.mem_of_getLast? rfl) (.head _) (.tail _ (.tail _ (.head _)))
  have hmisspelled : ¬ Geography.shape.Declares (.record
      [("exclud", .record [("states", .list [.text "CO"])])]) := by
    intro h
    have hnone : ∀ names ∈ [["include"], ["exclude"]], "exclud" ∉ names := by decide
    obtain ⟨names, hnames, hname⟩ := Declared.known h _ List.mem_cons_self
    exact hnone names hnames hname
  have hdoubled : ¬ Policy.shape.Declares (.record
      [("minimumScore", .float 0.5), ("minimum_score", .float 0.5)]) := by
    intro h
    have honce := Declared.once h ["minimumScore", "minimum_score"] List.mem_cons_self
    exact absurd honce (by decide)
  refine ⟨⟨s, hfree⟩, ((decode_declared free).1 s hfree).1, (decode_declared misspelled).2 ?_,
    (decode_declared doubled).2 ?_⟩
  · have hgeography : ∀ w, Conditions.shape.Part (.record [("geography", w)]) Geography.shape w :=
      fun w => .field (.head _) (.head _) (.head _)
    exact ⟨_, _, hplace (.within (hconditions _) (.within (hgeography _) .here)), hmisspelled⟩
  · exact ⟨_, _, hplace (.within (hconfig _) .here), hdoubled⟩

end RuleSet

end LeadRouting
