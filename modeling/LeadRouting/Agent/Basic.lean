import LeadRouting.Document.Decode

/-!
# Agents

An agent stands here as it was measured when a lead came in: its capacity, its open leads, how well
it fits the lead and whether it may write to the lead at all. **An agent that lacks one of the two
permissions is never routed to** (`ready`).
-/

namespace LeadRouting

/-- What is known of an agent at the time of routing. -/
structure Agent where
  userId : String
  /-- The number of open leads that the agent aims for. -/
  capacityTarget : Int64
  /-- The number of open leads that the agent has. -/
  activePipeline : UInt32
  geographyFit : Float
  priceBandFit : Float
  /-- The share of appointments that were kept. -/
  keptRate : Float
  /-- The agent may use channels that ask for consent. -/
  consentReady : Bool
  /-- The number from which the agent sends texts is registered. -/
  numberReady : Bool
  teamId : Option String
  /-- The place of the agent in the rotation of its team. -/
  rotationOrder : Option UInt32
  deriving DecidableEq

namespace Agent

/-- The agent has both permissions. -/
def ready (a : Agent) : Bool := a.consentReady && a.numberReady

/-- The share of its capacity that the agent has left; none if it aims for no leads. -/
def headroom (a : Agent) : Float :=
  if a.capacityTarget.toInt ≤ 0 then 0.0
  else
    let target := Float.ofInt a.capacityTarget.toInt
    Number.clamp 0.0 1.0 ((target - Float.ofNat a.activePipeline.toNat) / target)

/-- Reads an agent. -/
def decode : Decoder Agent :=
  Fields.decoder
    (Agent.mk
      <$> .required "userId" Decoder.text
      <*> .required "capacityTarget" Decoder.int64
      <*> .required "activePipeline" Decoder.uint32
      <*> .withDefault "geographyFit" Decoder.float 0.0
      <*> .withDefault "priceBandFit" Decoder.float 0.0
      <*> .withDefault "keptApptRate" Decoder.float 0.0
      <*> .withDefault "consentReady" Decoder.bool false
      <*> .withDefault "tenDlcReady" Decoder.bool false
      <*> .optional "teamId" Decoder.text
      <*> .optional "roundRobinOrder" Decoder.uint32)
    false

/-- The agent as a value. -/
def toJson (a : Agent) : Json := .record
  [ ("userId", .text a.userId),
    ("capacityTarget", .int a.capacityTarget.toInt),
    ("activePipeline", .int a.activePipeline.toNat),
    ("geographyFit", .ofFloat a.geographyFit),
    ("priceBandFit", .ofFloat a.priceBandFit),
    ("keptApptRate", .ofFloat a.keptRate),
    ("consentReady", .bool a.consentReady),
    ("tenDlcReady", .bool a.numberReady),
    ("teamId", .ofOption Json.text a.teamId),
    ("roundRobinOrder", .ofOption (fun n => .int n.toNat) a.rotationOrder) ]

end Agent

end LeadRouting
