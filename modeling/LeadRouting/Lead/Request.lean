import LeadRouting.Agent.Score
import LeadRouting.Text.Blank

/-!
# Requests

A request asks for agents for one lead of one tenant. It brings the pool of agents, how much the
lead makes of the two fits, and perhaps a policy and a team to fall back on.

Routing takes every request as it is. `LeadRequest.fault?` is for requests that come from outside:
**the first fault in a fixed order is the one that is named**, and of agents listed twice the one
whose second entry comes first.
-/

namespace LeadRouting

/-- A request for agents for one lead. -/
structure LeadRequest where
  leadId : String
  tenantId : String
  geographyImportance : Float
  priceBandImportance : Float
  agents : List Agent
  policy : Option Policy
  fallbackTeamId : Option String
  /-- It is a time at which the lead is not to be disturbed. -/
  quietHours : Bool
  deriving DecidableEq

/-- What is wrong with a request. -/
inductive RequestFault where
  | emptyField (field : String)
  | outsideUnit (field : String) (value : Float)
  | duplicateAgent (userId : String)
  deriving DecidableEq

/-- The fault in words. -/
def RequestFault.message : RequestFault → String
  | .emptyField field => "Invalid value for " ++ field ++ ": must not be empty"
  | .outsideUnit field value =>
    "Invalid value for " ++ field ++ ": Must be between 0.0 and 1.0, got " ++
      Number.Layout.message.write value
  | .duplicateAgent userId => "Agent listed more than once: " ++ userId

namespace LeadRequest

/-- A request without agents. -/
def new (leadId tenantId : String) : LeadRequest :=
  ⟨leadId, tenantId, 0.0, 0.0, [], none, none, false⟩

/-- How much the lead makes of the two fits. -/
def importance (r : LeadRequest) : Importance := ⟨r.geographyImportance, r.priceBandImportance⟩

/-- The policy of the request, or the standard one. -/
def effectivePolicy (r : LeadRequest) : Policy := r.policy.getD .standard

/-! ## 1. Faults -/

/-- The first id of a list that an earlier place, or the list `seen`, holds already. -/
def firstRepeated? (seen : List String) : List String → Option String
  | [] => none
  | id :: rest => if seen.contains id then some id else firstRepeated? (id :: seen) rest

/-- A text field with nothing but blanks. -/
def emptyFault? (field value : String) : Option RequestFault :=
  if Text.blank value then some (.emptyField field) else none

/-- A field outside the unit interval. -/
def unitFault? (field : String) (value : Float) : Option RequestFault :=
  if Number.inUnit value then none else some (.outsideUnit field value)

/-- The first fault of the request. -/
def fault? (r : LeadRequest) : Option RequestFault :=
  emptyFault? "leadId" r.leadId
    |>.or (emptyFault? "tenantId" r.tenantId)
    |>.or (unitFault? "geographyImportance" r.geographyImportance)
    |>.or (unitFault? "priceBandImportance" r.priceBandImportance)
    |>.or ((firstRepeated? [] (r.agents.map Agent.userId)).map RequestFault.duplicateAgent)

theorem firstRepeated?_eq_none_iff (seen ids : List String) :
    firstRepeated? seen ids = none ↔ ids.Nodup ∧ ∀ id ∈ ids, id ∉ seen := by
  induction ids generalizing seen with
  | nil => simp [firstRepeated?]
  | cons id rest ih =>
    unfold firstRepeated?
    by_cases h : id ∈ seen
    · simp [h]
    · simp only [List.contains_eq_mem, h, decide_false, Bool.false_eq_true, if_false, ih,
        List.nodup_cons, List.mem_cons, forall_eq_or_imp, not_false_eq_true, true_and]
      constructor
      · rintro ⟨hn, hs⟩
        exact ⟨⟨fun hm => (hs id hm) (Or.inl rfl), hn⟩, fun x hx hm => hs x hx (Or.inr hm)⟩
      · rintro ⟨⟨hid, hn⟩, hs⟩
        refine ⟨hn, fun x hx hm => ?_⟩
        rcases hm with rfl | hm
        · exact hid hx
        · exact hs x hx hm

/-! ## 2. As values -/

/-- Reads a request; a name that is no field is refused. -/
def decode : Decoder LeadRequest :=
  Fields.decoder
    (LeadRequest.mk
      <$> .required "leadId" Decoder.text
      <*> .required "tenantId" Decoder.text
      <*> .withDefault "geographyImportance" Decoder.float 0.0
      <*> .withDefault "priceBandImportance" Decoder.float 0.0
      <*> .withDefault "agents" (.list Agent.decode) []
      <*> .optional "config" Policy.decode
      <*> .optional "fallbackTeamId" Decoder.text
      <*> .withDefault "quietHours" Decoder.bool false)
    true

/-- The request as a value. -/
def toJson (r : LeadRequest) : Json := .record
  [ ("leadId", .text r.leadId),
    ("tenantId", .text r.tenantId),
    ("geographyImportance", .ofFloat r.geographyImportance),
    ("priceBandImportance", .ofFloat r.priceBandImportance),
    ("agents", .ofList Agent.toJson r.agents),
    ("config", .ofOption Policy.toJson r.policy),
    ("fallbackTeamId", .ofOption Json.text r.fallbackTeamId),
    ("quietHours", .bool r.quietHours) ]

end LeadRequest

end LeadRouting
