import LeadRouting.Proofs.FirstMatch
import LeadRouting.Proofs.PoolOrder

/-!
# A part of the pool

A rule has its request routed over the agents that its targets take in and not over the whole pool.
The place of an agent in a ranking does not depend on who else is ranked, so it is the same to rank
a part of the pool and to pick that part from the ranking of the whole.

* `LeadRequest.ranking_of_ids` -- **so it is for the agents of any ids**, entries of one id included;
* `Rule.keeps` -- the entry of a ranked agent in the pool is taken in by some target of a rule;
* `Router.widened` -- the request with the policy and the fallback of a rule, over the WHOLE pool;
* **`Router.route_eq_keeping`** -- where no rotation has a say, a routed decision is the direct
  selection of the widened request, cut down to the agents that the rule keeps.
-/

namespace LeadRouting

/-! ## 1. Rankings -/

namespace LeadRequest

/-- The scores of the agents of some ids are the scores with these ids. -/
theorem scores_of_ids (r : LeadRequest) (q : String → Bool) :
    ({ r with agents := r.agents.filter fun a => q a.userId } : LeadRequest).scores =
      r.scores.filter fun x => q x.userId := by
  rw [scores_eq_map, scores_eq_map, List.filter_map, List.filter_comm]
  rfl

/-- **The ranking of the agents of some ids is the part of the ranking with these ids.** -/
theorem ranking_of_ids (r : LeadRequest) (q : String → Bool) :
    ({ r with agents := r.agents.filter fun a => q a.userId } : LeadRequest).ranking =
      r.ranking.filter fun x => q x.userId := by
  unfold ranking
  rw [filter_mergeSort_of_key ScoredAgent.ranksBefore_iff_key, scores_of_ids, List.filter_comm]
  rfl

end LeadRequest

/-! ## 2. What a rule keeps -/

/-- Some entry of an id in the pool is taken in by a target of the rule. -/
def Rule.keepsId [Zones] (rule : Rule) (pool : List Agent) (id : String) : Bool :=
  pool.any fun a => a.userId = id && rule.targets.any fun t => t.includes a

/-- The entry of a ranked agent in the pool is taken in by a target of the rule. -/
def Rule.keeps [Zones] (rule : Rule) (pool : List Agent) (x : ScoredAgent) : Bool :=
  rule.keepsId pool x.userId

/-- Where no id is repeated an id is kept exactly where its one entry is taken in. -/
theorem Rule.keepsId_of_nodup [Zones] {rule : Rule} {pool : List Agent}
    (h : (pool.map Agent.userId).Nodup) {a : Agent} (ha : a ∈ pool) :
    rule.keepsId pool a.userId = rule.targets.any fun t => t.includes a := by
  unfold keepsId
  rw [Bool.eq_iff_iff, List.any_eq_true]
  constructor
  · rintro ⟨b, hb, hkept⟩
    obtain ⟨hid, hincluded⟩ := Bool.and_eq_true_iff.mp hkept
    obtain rfl : b = a := List.inj_on_of_nodup_map h hb ha (of_decide_eq_true hid)
    exact hincluded
  · intro hincluded
    exact ⟨a, ha, Bool.and_eq_true_iff.mpr ⟨decide_eq_true rfl, hincluded⟩⟩

/-- The pool of a rule, said by ids. -/
theorem poolOf_eq_filter_keepsId [Zones] {rule : Rule} {pool : List Agent}
    (h : (pool.map Agent.userId).Nodup) :
    poolOf rule.targets pool = pool.filter fun a => rule.keepsId pool a.userId := by
  rw [poolOf_of_nodup h]
  exact List.filter_congr fun a ha => (Rule.keepsId_of_nodup h ha).symm

/-- The selection cut down to the agents that pass a test. -/
def Selection.keeping (sel : Selection) (p : ScoredAgent → Bool) : Selection :=
  { sel with agents := sel.agents.filter p, usedFallback := (sel.agents.filter p).isEmpty }

/-! ## 3. The two ways of routing -/

namespace Router

section Widened

variable [Zones] {σ : Type} {router : Router σ} {rules : RuleSet} {ctx : Context}
  {r : LeadRequest} {s : σ} {rule : Rule}

/-- **The request with the policy and the fallback of a rule, over the whole pool**: the policy is
    the rule's, or else the request's, or else the router's, and so is the team to fall back on but
    for the router, which has none. -/
def widened (router : Router σ) (rule : Rule) (r : LeadRequest) : LeadRequest :=
  { r with
    policy := some (router.policyFor rule r)
    fallbackTeamId := rule.fallbackTeamId.or r.fallbackTeamId }

theorem narrowed_eq (router : Router σ) (rule : Rule) (r : LeadRequest) :
    router.narrowed rule r =
      { router.widened rule r with agents := poolOf rule.targets r.agents } := by
  unfold narrowed scope widened policyFor
  cases rule.policy with
  | some own => rfl
  | none =>
      cases r.policy with
      | some asked => rfl
      | none => rfl

/-- **What a rule selects without a rotation is what it keeps of the direct selection.** -/
theorem route_narrowed (hids : (r.agents.map Agent.userId).Nodup) :
    (router.narrowed rule r).route =
      (router.widened rule r).route.keeping (rule.keeps r.agents) := by
  have hranking : (router.narrowed rule r).ranking =
      (router.widened rule r).ranking.filter (rule.keeps r.agents) := by
    rw [narrowed_eq, poolOf_eq_filter_keepsId hids]
    exact (router.widened rule r).ranking_of_ids (rule.keepsId r.agents)
  unfold LeadRequest.route
  rw [hranking]
  rfl

/-- **Routing by a rule and routing directly agree.** Where the pool repeats no id and the first
    rule that matches leads to no pond, a router without a rotation, or a rule without a team that
    takes turns, decides for the direct selection of the whole pool under the policy and the
    fallback of the rule, less the agents that no target of the rule takes in; it falls back exactly
    where none is left. -/
theorem route_eq_keeping (hids : (r.agents.map Agent.userId).Nodup)
    (hmatch : firstMatch? rules ctx = some rule)
    (hpond : ∀ id rest, rule.targets ≠ .pond id :: rest)
    (hturns : router.rotation = none ∨ rule.rotatingTeam? = none) :
    router.route rules ctx r s =
      (.routed rule.id (rule.evaluate ctx)
        ((router.widened rule r).route.keeping (rule.keeps r.agents)), s) := by
  have hnone := Rule.pond?_eq_none_iff.mpr hpond
  have hselect : router.select rule (router.narrowed rule r) s =
      ((router.narrowed rule r).route, s) := by
    rcases hturns with hrotation | hteam
    · exact select_of_no_rotation hrotation
    · exact select_of_no_team hteam
  rw [route_of_firstMatch hmatch, decideBy_of_agents hnone, hselect, route_narrowed hids]

end Widened

/-- Wes of the western team is first in the direct selection and is not kept by the eastern rule;
    those who are kept stand as they stood. The floor of the rule, which Cleo does not reach, and
    its team to fall back on hold both ways. -/
theorem route_eq_keeping_east :
    let r := Example.request [{ Example.agent "wes" 0 none with teamId := some "west" },
      Example.agent "ann" 2 none, Example.agent "dora" 4 none, Example.agent "cleo" 10 none]
    let router : Router Unit := .plain .standard
    let direct := (router.widened Example.rule r).route
    let kept := direct.keeping (Example.rule.keeps r.agents)
    (r.agents.map Agent.userId).Nodup ∧
      firstMatch? Example.rules Example.context = some Example.rule ∧
      (∀ id rest, Example.rule.targets ≠ .pond id :: rest) ∧ router.rotation = none ∧
      direct.agents.map ScoredAgent.userId = ["wes", "ann", "dora"] ∧
      kept.agents.map ScoredAgent.userId = ["ann", "dora"] ∧
      kept.fallbackTeamId = some "west" ∧
      router.route Example.rules Example.context r () = (.routed "east" (.ofChecks []) kept, ()) := by
  intro r router direct kept
  have hids : (r.agents.map Agent.userId).Nodup := by decide
  have hpond : ∀ id rest, Example.rule.targets ≠ .pond id :: rest :=
    Rule.pond?_eq_none_iff.mp rfl
  have hranking : (router.widened Example.rule r).ranking =
      (router.widened Example.rule r).scores.filter (router.widened Example.rule r).admits :=
    LeadRequest.ranking_of_pairwise (by decide +kernel)
  have hdirect : direct.agents.map ScoredAgent.userId = ["wes", "ann", "dora"] := by
    have hagents : direct.agents = (router.widened Example.rule r).ranking := rfl
    rw [hagents, hranking]
    decide +kernel
  have hkept : kept.agents.map ScoredAgent.userId = ["ann", "dora"] := by
    have hagents : kept.agents =
        (router.widened Example.rule r).ranking.filter (Example.rule.keeps r.agents) := rfl
    rw [hagents, hranking]
    decide +kernel
  exact ⟨hids, Example.firstMatch?_rules, hpond, rfl, hdirect, hkept, rfl,
    route_eq_keeping hids Example.firstMatch?_rules hpond (.inl rfl)⟩

end Router

end LeadRouting
