import LeadRouting.Proofs.Promotion
import LeadRouting.Routing.Decision
import LeadRouting.Time.ListedZone

/-!
# What a decision is made of

A router decides in three steps: it finds the first rule that matches, it sees what the targets of
the rule come to, and it selects among their agents. This file opens those steps ONCE; what is
proved of decisions elsewhere rests on the equations here.

* `Rule.pond?` -- the pond that a rule leads to; `decideBy_of_pond` and `decideBy_of_agents` are the
  two things a rule that matched can do;
* `Router.policyFor` -- the policy a rule is carried out with, said by cases;
* `Router.select_perm` -- **with a rotation or without one the ranking is what is selected**;
* `Router.route_cases` -- the three things that can become of a lead, and `routed_cases`, a routed
  decision taken apart.
-/

namespace LeadRouting

/-- The pond that the rule leads to. -/
def Rule.pond? [Zones] (rule : Rule) : Option String :=
  match rule.targets with
  | .pond id :: _ => some id
  | _ => none

namespace Router

variable [Zones] {σ : Type} {router : Router σ} {rule : Rule} {rules : RuleSet} {ctx : Context}
  {r : LeadRequest} {s : σ}

/-! ## 1. The request as a rule changes it -/

/-- The policy that a rule is carried out with: its own, or else that of the request, or else that
    of the router. -/
def policyFor (router : Router σ) (rule : Rule) (r : LeadRequest) : Policy :=
  match rule.policy, r.policy with
  | some own, _ => own
  | none, some asked => asked
  | none, none => router.policy

/-- The request with the agents that the targets of a rule come to. -/
def narrowed (router : Router σ) (rule : Rule) (r : LeadRequest) : LeadRequest :=
  router.scope rule (poolOf rule.targets r.agents) r

theorem narrowed_effectivePolicy (router : Router σ) (rule : Rule) (r : LeadRequest) :
    (router.narrowed rule r).effectivePolicy = router.policyFor rule r := by
  unfold narrowed scope LeadRequest.effectivePolicy policyFor
  cases rule.policy with
  | some own => rfl
  | none =>
      cases r.policy with
      | some asked => rfl
      | none => rfl

@[simp] theorem narrowed_agents (router : Router σ) (rule : Rule) (r : LeadRequest) :
    (router.narrowed rule r).agents = poolOf rule.targets r.agents := rfl

theorem nodup_narrowed (router : Router σ) (rule : Rule) (r : LeadRequest) :
    ((router.narrowed rule r).agents.map Agent.userId).Nodup := nodup_firstEntries [] _

@[simp] theorem narrowed_importance (router : Router σ) (rule : Rule) (r : LeadRequest) :
    (router.narrowed rule r).importance = r.importance := rfl

/-! ## 2. What is selected -/

theorem select_of_rotatingTeam {rotation : Rotation σ} {team : String}
    (hrot : router.rotation = some rotation) (hteam : rule.rotatingTeam? = some team) :
    router.select rule r s = r.routeWith rotation team s := by
  unfold select
  rw [hrot, hteam]

theorem select_of_no_team (h : rule.rotatingTeam? = none) :
    router.select rule r s = (r.route, s) := by
  unfold select
  rw [h]

theorem select_of_no_rotation (h : router.rotation = none) :
    router.select rule r s = (r.route, s) := by
  unfold select
  rw [h]
  cases rule.rotatingTeam? with
  | none => rfl
  | some team => rfl

/-- **With a rotation or without one, the ranking is what is selected**, in some order. -/
theorem select_perm (router : Router σ) (rule : Rule) (r : LeadRequest) (s : σ) :
    ∃ out, out.Perm r.ranking ∧ (router.select rule r s).1 = Selection.of r out := by
  unfold select
  split
  · rename_i team rotation _ _
    exact ⟨_, (arrange_arranged rotation team r.agents r.ranking s).perm, rfl⟩
  · exact ⟨r.ranking, .refl _, rfl⟩

/-! ## 3. What a rule that matched does -/

theorem decideBy_of_pond {id : String} (h : rule.pond? = some id) :
    router.decideBy rule ctx r s = (.pond rule.id id (rule.evaluate ctx), s) := by
  unfold Rule.pond? at h
  split at h
  · rename_i pondId rest htargets
    obtain rfl : pondId = id := Option.some.inj h
    unfold decideBy
    rw [htargets, resolve_pond]
  · cases h

/-- A rule that leads to no pond comes to the agents that its targets take in. -/
theorem resolve_of_agents (h : rule.pond? = none) (pool : List Agent) :
    resolve rule.targets pool = .agents (poolOf rule.targets pool) := by
  unfold Rule.pond? at h
  cases htargets : rule.targets with
  | nil => rfl
  | cons target rest =>
      rw [htargets] at h
      cases target with
      | agents ids => rfl
      | team id strategy => rfl
      | pond id => cases h

theorem decideBy_of_agents (h : rule.pond? = none) :
    router.decideBy rule ctx r s =
      (.routed rule.id (rule.evaluate ctx) (router.select rule (router.narrowed rule r) s).1,
        (router.select rule (router.narrowed rule r) s).2) := by
  unfold decideBy
  rw [resolve_of_agents h]
  rfl

theorem route_of_none (h : firstMatch? rules ctx = none) :
    router.route rules ctx r s =
      (.unmatched (rules.candidates.map (Rule.verdict ctx)) (.fallback r), s) := by
  unfold route
  rw [h]

/-- The first match is an enabled rule of the set, and it matches. -/
theorem mem_of_firstMatch (h : firstMatch? rules ctx = some rule) :
    rule ∈ rules.rules ∧ rule.enabled = true ∧ rule.isMatch ctx = true := by
  obtain ⟨hm, henabled⟩ := RuleSet.mem_candidates.mp (List.mem_of_find?_eq_some h)
  unfold firstMatch? at h
  have hmatch := List.find?_some h
  exact ⟨hm, henabled, hmatch⟩

/-- A rule that stands alone and asks for nothing matches every lead. -/
theorem firstMatch?_of_unconditional (rule : Rule) (ctx : Context)
    (henabled : rule.enabled = true) (hconditions : rule.conditions = none) :
    firstMatch? ⟨[rule]⟩ ctx = some rule := by
  have hcandidates : RuleSet.candidates ⟨[rule]⟩ = [rule] := by
    unfold RuleSet.candidates
    rw [List.filter_cons_of_pos henabled, List.filter_nil, List.mergeSort_singleton]
  unfold firstMatch?
  rw [hcandidates, List.find?_cons_of_pos]
  unfold Rule.isMatch Rule.evaluate
  rw [hconditions]
  rfl

/-- **What can become of a lead.** No rule matches and nothing moves; the first rule that matches
    leads to a pond and nothing moves; or it selects among the agents of its targets. -/
theorem route_cases (router : Router σ) (rules : RuleSet) (ctx : Context) (r : LeadRequest)
    (s : σ) :
    (firstMatch? rules ctx = none ∧ router.route rules ctx r s =
      (.unmatched (rules.candidates.map (Rule.verdict ctx)) (.fallback r), s)) ∨
    (∃ rule id, firstMatch? rules ctx = some rule ∧ rule.pond? = some id ∧
      router.route rules ctx r s = (.pond rule.id id (rule.evaluate ctx), s)) ∨
    ∃ rule, firstMatch? rules ctx = some rule ∧ rule.pond? = none ∧
      router.route rules ctx r s =
        (.routed rule.id (rule.evaluate ctx) (router.select rule (router.narrowed rule r) s).1,
          (router.select rule (router.narrowed rule r) s).2) := by
  cases hmatch : firstMatch? rules ctx with
  | none => exact .inl ⟨rfl, route_of_none hmatch⟩
  | some rule =>
      rw [route_of_firstMatch hmatch]
      cases hpond : rule.pond? with
      | some id => exact .inr (.inl ⟨rule, id, rfl, hpond, decideBy_of_pond hpond⟩)
      | none => exact .inr (.inr ⟨rule, rfl, hpond, decideBy_of_agents hpond⟩)

/-- A routed decision comes from the first rule that matches, which leads to no pond. -/
theorem routed_cases {id : String} {ev : Evaluation} {sel : Selection}
    (h : (router.route rules ctx r s).1 = .routed id ev sel) :
    ∃ rule, firstMatch? rules ctx = some rule ∧ rule.pond? = none ∧ rule.id = id ∧
      rule.evaluate ctx = ev ∧ (router.select rule (router.narrowed rule r) s).1 = sel := by
  obtain ⟨-, hroute⟩ | ⟨rule, pondId, -, -, hroute⟩ | ⟨rule, hmatch, hpond, hroute⟩ :=
    route_cases router rules ctx r s
  · rw [hroute] at h
    cases h
  · rw [hroute] at h
    cases h
  · rw [hroute] at h
    obtain ⟨hid, hev, hsel⟩ := Decision.routed.inj h
    exact ⟨rule, hmatch, hpond, hid, hev, hsel⟩

end Router

/-! ## 4. A team to try things on -/

namespace Example

/-- An agent of the eastern team that is ready, with some open leads and a place in the rotation. -/
def agent (id : String) (openLeads : UInt32) (place : Option UInt32) : Agent where
  userId := id
  capacityTarget := 10
  activePipeline := openLeads
  geographyFit := 0.5
  priceBandFit := 0.5
  keptRate := 0.9
  consentReady := true
  numberReady := true
  teamId := some "east"
  rotationOrder := place

/-- A request over a pool. -/
def request (pool : List Agent) : LeadRequest :=
  { LeadRequest.new "lead" "tenant" with agents := pool }

/-- The rule that sends every lead to the eastern team, by turns, from a floor on. -/
def rule : Rule where
  id := "east"
  name := none
  priority := 1
  enabled := true
  conditions := none
  targets := [.team "east" .roundRobin]
  fallbackTeamId := some "west"
  policy := some { Policy.standard with floor := 0.4 }

def rules : RuleSet := ⟨[rule]⟩

def context : Context := .at ⟨0, 0⟩

theorem firstMatch?_rules : Router.firstMatch? rules context = some rule :=
  Router.firstMatch?_of_unconditional rule context rfl rfl

end Example

end LeadRouting
