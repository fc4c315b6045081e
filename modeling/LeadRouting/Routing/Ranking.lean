import LeadRouting.Lead.Request

/-!
# Rankings and selections

The agents of a request are ranked by descending score, then by ascending number of open leads, then
by user id; **entries that agree in all three keep the order of the pool**. An agent that is not
ready and one whose score does not reach the floor have no place in the ranking.

A selection is the ranking together with what it was asked for. An empty ranking means falling back.
-/

namespace LeadRouting

/-! ## 1. The order of scored agents -/

namespace ScoredAgent

/-- The first is ranked ahead of the second, or they agree. -/
def ranksBefore (a b : ScoredAgent) : Bool :=
  let x := Number.rank a.score
  let y := Number.rank b.score
  y < x || (x = y && (a.activePipeline < b.activePipeline ||
    (a.activePipeline = b.activePipeline && a.userId ≤ b.userId)))

/-- Both have the same score and the same number of open leads. -/
def ties (a b : ScoredAgent) : Bool :=
  Number.rank a.score = Number.rank b.score && a.activePipeline = b.activePipeline

theorem ties_refl (a : ScoredAgent) : ties a a = true := by simp [ties]

end ScoredAgent

/-! ## 2. Ranking -/

namespace LeadRequest

/-- The scores of the agents that are ready, in the order of the pool. -/
def scores (r : LeadRequest) : List ScoredAgent :=
  r.agents.filterMap (Agent.score? r.effectivePolicy r.importance)

/-- A scored agent reaches the floor. -/
def admits (r : LeadRequest) (s : ScoredAgent) : Bool := Number.le r.effectivePolicy.floor s.score

/-- The agents that reach the floor, the best one first. -/
def ranking (r : LeadRequest) : List ScoredAgent :=
  (r.scores.filter r.admits).mergeSort ScoredAgent.ranksBefore

/-- **The ranking holds the agents that reach the floor and no others.** -/
theorem ranking_perm (r : LeadRequest) : r.ranking.Perm (r.scores.filter r.admits) :=
  List.mergeSort_perm _ _

theorem mem_ranking {r : LeadRequest} {s : ScoredAgent} :
    s ∈ r.ranking ↔ s ∈ r.scores ∧ r.admits s = true := by
  rw [r.ranking_perm.mem_iff, List.mem_filter]

end LeadRequest

/-! ## 3. Selections -/

/-- The agents that are asked to take a lead. -/
structure Selection where
  leadId : String
  tenantId : String
  /-- The agents, the best one first. -/
  agents : List ScoredAgent
  usedFallback : Bool
  fallbackTeamId : Option String
  quietHours : Bool
  deriving DecidableEq

namespace Selection

/-- The selection of a ranking for a request. -/
def of (r : LeadRequest) (ranked : List ScoredAgent) : Selection where
  leadId := r.leadId
  tenantId := r.tenantId
  agents := ranked
  usedFallback := ranked.isEmpty
  fallbackTeamId := r.fallbackTeamId
  quietHours := r.quietHours

/-- The selection without agents. -/
def fallback (r : LeadRequest) : Selection := of r []

@[simp] theorem of_agents (r : LeadRequest) (xs : List ScoredAgent) : (of r xs).agents = xs := rfl

@[simp] theorem of_usedFallback (r : LeadRequest) (xs : List ScoredAgent) :
    (of r xs).usedFallback = xs.isEmpty := rfl

/-- Reads a selection. -/
def decode : Decoder Selection :=
  Fields.decoder
    (Selection.mk
      <$> .required "leadId" Decoder.text
      <*> .required "tenantId" Decoder.text
      <*> .required "selectedAgents" (.list ScoredAgent.decode)
      <*> .required "usedFallback" Decoder.bool
      <*> .optional "fallbackTeamId" Decoder.text
      <*> .required "quietHours" Decoder.bool)
    false

/-- The selection as a value. -/
def toJson (s : Selection) : Json := .record
  [ ("leadId", .text s.leadId),
    ("tenantId", .text s.tenantId),
    ("selectedAgents", .ofList ScoredAgent.toJson s.agents),
    ("usedFallback", .bool s.usedFallback),
    ("fallbackTeamId", .ofOption Json.text s.fallbackTeamId),
    ("quietHours", .bool s.quietHours) ]

end Selection

/-- The selection of a request. -/
def LeadRequest.route (r : LeadRequest) : Selection := .of r r.ranking

end LeadRouting
