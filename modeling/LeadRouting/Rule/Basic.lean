import LeadRouting.Evaluation.Basic
import LeadRouting.Lead.Request

/-!
# Rules

A rule says for which leads it is meant and where it sends them. Its targets are agents by id, whole
teams and ponds, shared pools where nobody is asked. **The first target decides**: if it is a pond
the lead goes there, and otherwise the agents and the teams together make up the pool and a later
pond means nothing.
-/

namespace LeadRouting

/-! ## 1. Targets -/

/-- How the members of a team are put in order. -/
inductive Strategy where
  /-- By score alone. -/
  | score
  /-- By score, and by turns where scores tie. -/
  | roundRobin
  deriving DecidableEq

/-- The name of a strategy in documents. -/
def Strategy.name : Strategy → String
  | .score => "SCORE"
  | .roundRobin => "ROUND_ROBIN"

/-- Where a rule sends a lead. -/
inductive Target where
  | agents (ids : List String)
  | team (id : String) (strategy : Strategy)
  | pond (id : String)
  deriving DecidableEq

namespace Target

/-- The target is a pond. -/
def isPond : Target → Bool
  | .pond _ => true
  | _ => false

/-- The target takes an agent in. -/
def includes : Target → Agent → Bool
  | .agents ids, a => ids.contains a.userId
  | .team id _, a => a.teamId = some id
  | .pond _, _ => false

/-- The team of the target, if it takes turns. -/
def rotatingTeam? : Target → Option String
  | .team id .roundRobin => some id
  | _ => none

/-- Reads a target; its kind stands under `type`. -/
def decode : Decoder Target :=
  Decoder.tagged "type"
    [ ("AGENT", Target.agents <$> .required "agentIds" (.list Decoder.text)),
      ("TEAM", Target.team
        <$> .required "teamId" Decoder.text
        <*> .withDefault "strategy" (.named [.score, .roundRobin] Strategy.name) .score),
      ("POND", Target.pond <$> .required "pondId" Decoder.text) ]
    true

/-- The target as a value. -/
def toJson : Target → Json
  | .agents ids => .record [("type", .text "AGENT"), ("agentIds", .ofList Json.text ids)]
  | .team id strategy => .record
    [("type", .text "TEAM"), ("teamId", .text id), ("strategy", .text strategy.name)]
  | .pond id => .record [("type", .text "POND"), ("pondId", .text id)]

end Target

/-! ## 2. Pools -/

/-- What the targets of a rule come to for a pool of agents. -/
inductive Resolution where
  | pond (id : String)
  | agents (pool : List Agent)
  deriving DecidableEq

/-- The first entry of every user id that is not among the `seen` ones. -/
def firstEntries (seen : List String) : List Agent → List Agent
  | [] => []
  | a :: rest =>
    if seen.contains a.userId then firstEntries seen rest
    else a :: firstEntries (a.userId :: seen) rest

/-- The agents of a pool that some target takes in, each id once. -/
def poolOf (targets : List Target) (pool : List Agent) : List Agent :=
  firstEntries [] (pool.filter fun a => targets.any fun t => t.includes a)

/-- What targets come to for a pool. -/
def resolve (targets : List Target) (pool : List Agent) : Resolution :=
  match targets with
  | .pond id :: _ => .pond id
  | _ => .agents (poolOf targets pool)

theorem resolve_pond (id : String) (rest : List Target) (pool : List Agent) :
    resolve (.pond id :: rest) pool = .pond id := rfl

theorem mem_of_mem_firstEntries {seen : List String} {pool : List Agent} {a : Agent}
    (h : a ∈ firstEntries seen pool) : a ∈ pool ∧ a.userId ∉ seen := by
  induction pool generalizing seen with
  | nil => simp [firstEntries] at h
  | cons b rest ih =>
    unfold firstEntries at h
    split at h
    · exact ⟨List.mem_cons_of_mem _ (ih h).1, (ih h).2⟩
    · rename_i hb
      rcases List.mem_cons.1 h with rfl | h
      · exact ⟨List.mem_cons_self, by simpa using hb⟩
      · have := ih h
        exact ⟨List.mem_cons_of_mem _ this.1, fun hm => this.2 (List.mem_cons_of_mem _ hm)⟩

/-- **A resolved pool holds no id twice.** -/
theorem nodup_firstEntries (seen : List String) (pool : List Agent) :
    ((firstEntries seen pool).map Agent.userId).Nodup := by
  induction pool generalizing seen with
  | nil => simp [firstEntries]
  | cons a rest ih =>
    unfold firstEntries
    split
    · exact ih seen
    · refine List.nodup_cons.2 ⟨fun hm => ?_, ih _⟩
      obtain ⟨b, hb, hid⟩ := List.mem_map.1 hm
      exact (mem_of_mem_firstEntries hb).2 (by simp [hid])

variable [Zones]

/-! ## 3. Rules -/

/-- A rule. -/
structure Rule where
  id : String
  name : Option String
  /-- Rules of a lower priority come first. -/
  priority : Int32
  enabled : Bool
  conditions : Option Conditions
  targets : List Target
  fallbackTeamId : Option String
  policy : Option Policy

namespace Rule

/-- The name of the rule, or its id. -/
def displayName (r : Rule) : String := r.name.getD r.id

/-- The first team of the rule that takes turns. -/
def rotatingTeam? (r : Rule) : Option String := r.targets.findSome? Target.rotatingTeam?

/-- The conditions of the rule, tested against a context. -/
def evaluate (r : Rule) (ctx : Context) : Evaluation := LeadRouting.evaluate r.conditions ctx

/-- The conditions hold. -/
def isMatch (r : Rule) (ctx : Context) : Bool := (r.evaluate ctx).matched

/-- The evaluation under the id of the rule. -/
def verdict (ctx : Context) (r : Rule) : RuleVerdict := ⟨r.id, r.evaluate ctx⟩

/-- Reads a rule. -/
def decode : Decoder Rule :=
  Fields.decoder
    (Rule.mk
      <$> .required "id" Decoder.text
      <*> .optional "name" Decoder.text
      <*> .withDefault "priority" Decoder.int32 100
      <*> .withDefault "enabled" Decoder.bool true
      <*> .optional "conditions" Conditions.decode
      <*> .required "targets" (.list Target.decode)
      <*> .optional "fallbackTeamId" Decoder.text
      <*> .optional "config" Policy.decode)
    true

/-- The rule as a value. -/
def toJson (r : Rule) : Json := .record
  [ ("id", .text r.id),
    ("name", .ofOption Json.text r.name),
    ("priority", .int r.priority.toInt),
    ("enabled", .bool r.enabled),
    ("conditions", .ofOption Conditions.toJson r.conditions),
    ("targets", .ofList Target.toJson r.targets),
    ("fallbackTeamId", .ofOption Json.text r.fallbackTeamId),
    ("config", .ofOption Policy.toJson r.policy) ]

end Rule

end LeadRouting
