import LeadRouting.Agent.Basic
import LeadRouting.Agent.Policy

/-!
# Scores

The score of an agent is the sum of four terms, one for each factor in a fixed order: performance,
capacity, geography and price band. A term is a weight times a measured value, and the two fits
count as much as the lead makes of them.

`Agent.score?` **answers nothing for an agent that is not ready** and a score for every other one;
the sum starts at the negative zero, so a sum of negative zeros is one too.
-/

namespace LeadRouting

/-! ## 1. Factors and terms -/

/-- What a score is made of. -/
inductive Factor where
  | capacity | performance | geography | priceBand
  deriving DecidableEq

namespace Factor

/-- Every factor. -/
def all : List Factor := [.capacity, .performance, .geography, .priceBand]

/-- The name of a factor in documents. -/
def name : Factor → String
  | .capacity => "CAPACITY"
  | .performance => "PERFORMANCE"
  | .geography => "GEOGRAPHY"
  | .priceBand => "PRICE_BAND"

end Factor

/-- One term of a score. -/
structure Term where
  factor : Factor
  weight : Float
  value : Float
  contribution : Float
  deriving DecidableEq

/-- The term of a weight and a value. -/
def Term.of (factor : Factor) (weight value : Float) : Term :=
  ⟨factor, weight, value, weight * value⟩

/-- An agent with its score. -/
structure ScoredAgent where
  userId : String
  teamId : Option String
  score : Float
  activePipeline : UInt32
  terms : List Term
  deriving DecidableEq

/-- The term of a factor, if the score has one. -/
def ScoredAgent.term? (s : ScoredAgent) (f : Factor) : Option Term :=
  s.terms.find? fun t => t.factor = f

/-! ## 2. Scoring -/

namespace Agent

/-- The terms of the agent's score. -/
def terms (p : Policy) (i : Importance) (a : Agent) : List Term :=
  [ .of .performance p.performance a.keptRate,
    .of .capacity p.capacity a.headroom,
    .of .geography (p.geography * i.geography) a.geographyFit,
    .of .priceBand (p.priceBand * i.priceBand) a.priceBandFit ]

/-- The sum of the terms. -/
def total (terms : List Term) : Float := terms.foldl (fun sum t => sum + t.contribution) (-0.0)

/-- The agent with its score, ready or not. -/
def scored (p : Policy) (i : Importance) (a : Agent) : ScoredAgent where
  userId := a.userId
  teamId := a.teamId
  score := total (a.terms p i)
  activePipeline := a.activePipeline
  terms := a.terms p i

/-- The agent with its score, if the agent is ready. -/
def score? (p : Policy) (i : Importance) (a : Agent) : Option ScoredAgent :=
  if a.ready then some (a.scored p i) else none

@[simp] theorem scored_userId (p : Policy) (i : Importance) (a : Agent) :
    (a.scored p i).userId = a.userId := rfl

@[simp] theorem scored_teamId (p : Policy) (i : Importance) (a : Agent) :
    (a.scored p i).teamId = a.teamId := rfl

@[simp] theorem scored_activePipeline (p : Policy) (i : Importance) (a : Agent) :
    (a.scored p i).activePipeline = a.activePipeline := rfl

end Agent

/-! ## 3. As values -/

/-- Reads a term. -/
def Term.decode : Decoder Term :=
  Fields.decoder
    (Term.mk
      <$> .required "kind" (Decoder.named Factor.all Factor.name)
      <*> .required "weight" Decoder.float
      <*> .required "value" Decoder.float
      <*> .required "contribution" Decoder.float)
    false

/-- The term as a value. -/
def Term.toJson (t : Term) : Json := .record
  [ ("kind", .text t.factor.name),
    ("weight", .ofFloat t.weight),
    ("value", .ofFloat t.value),
    ("contribution", .ofFloat t.contribution) ]

/-- Reads a scored agent. -/
def ScoredAgent.decode : Decoder ScoredAgent :=
  Fields.decoder
    (ScoredAgent.mk
      <$> .required "userId" Decoder.text
      <*> .optional "teamId" Decoder.text
      <*> .required "score" Decoder.float
      <*> .required "activePipeline" Decoder.uint32
      <*> .required "reasons" (Decoder.list Term.decode))
    false

/-- The scored agent as a value. -/
def ScoredAgent.toJson (s : ScoredAgent) : Json := .record
  [ ("userId", .text s.userId),
    ("teamId", .ofOption Json.text s.teamId),
    ("score", .ofFloat s.score),
    ("activePipeline", .int s.activePipeline.toNat),
    ("reasons", .ofList Term.toJson s.terms) ]

end LeadRouting
