import LeadRouting.Proofs.Offering

/-!
# Who is eligible and who is ranked

A decision has two parts: the GROUNDS it rests on -- which rule matched and what came of its
conditions, or what came of all rules -- and the ASSIGNMENT, a pond or a selection. The first part
is about the lead, the second about the agents. This file says that neither of the two reaches into
the other.

* `Router.groundsFor rules ctx` -- the grounds, made WITHOUT a request (`route_grounds`);
* `Router.assign rule r s` -- the assignment by a rule, made WITHOUT a context (`decideBy_assign`);
* `LeadRequest.Readdressed` -- two requests that differ in whose lead it is, in the quiet hours and
  in the team to fall back on; their rankings are the same (`Readdressed.ranking_eq`);
* **`Router.route_separates`** -- so no request changes the grounds, no fact about the person or the
  listing changes an assignment but by the rule that matches, and the address changes neither who
  is selected nor what a rotation is offered.
-/

namespace LeadRouting

/-! ## 1. The two parts of a decision -/

/-- What a decision rests on. -/
inductive Grounds where
  | routed (ruleId : String) (evaluation : Evaluation)
  | pond (ruleId : String) (evaluation : Evaluation)
  | unmatched (verdicts : List RuleVerdict)
  deriving DecidableEq

/-- What becomes of a lead. -/
inductive Assignment where
  | pond (id : String)
  | selection (s : Selection)
  deriving DecidableEq

namespace Decision

/-- The grounds of a decision: its kind, the rule and the evaluations. -/
def grounds : Decision → Grounds
  | .routed id ev _ => .routed id ev
  | .pond id _ ev => .pond id ev
  | .unmatched verdicts _ => .unmatched verdicts

/-- The assignment of a decision. -/
def assignment : Decision → Assignment
  | .routed _ _ sel => .selection sel
  | .pond _ id _ => .pond id
  | .unmatched _ sel => .selection sel

/-- The agents that a decision selects; there are none for a pond. -/
def agents? (d : Decision) : Option (List ScoredAgent) := d.selection?.map Selection.agents

end Decision

/-! ## 2. Grounds without a request -/

namespace Router

variable [Zones] {σ : Type}

/-- The grounds for a context, whatever the request. -/
def groundsFor (rules : RuleSet) (ctx : Context) : Grounds :=
  match firstMatch? rules ctx with
  | some rule =>
    if rule.pond?.isSome then .pond rule.id (rule.evaluate ctx)
    else .routed rule.id (rule.evaluate ctx)
  | none => .unmatched (rules.candidates.map (Rule.verdict ctx))

/-- **A decision rests on the rules and the context alone.** -/
theorem route_grounds (router : Router σ) (rules : RuleSet) (ctx : Context) (r : LeadRequest)
    (s : σ) : (router.route rules ctx r s).1.grounds = groundsFor rules ctx := by
  unfold groundsFor
  obtain ⟨hfirst, hroute⟩ | ⟨rule, id, hfirst, hpond, hroute⟩ | ⟨rule, hfirst, hpond, hroute⟩ :=
    route_cases router rules ctx r s
  · rw [hroute, hfirst]
    rfl
  · rw [hroute, hfirst]
    simp only [hpond, Option.isSome_some, if_true]
    rfl
  · rw [hroute, hfirst]
    simp only [hpond, Option.isSome_none, Bool.false_eq_true, if_false]
    rfl

/-! ## 3. Assignments without a context -/

/-- What a rule makes of a request, whatever the context. -/
def assign (router : Router σ) (rule : Rule) (r : LeadRequest) (s : σ) : Assignment × σ :=
  match rule.pond? with
  | some id => (.pond id, s)
  | none =>
    (.selection (router.select rule (router.narrowed rule r) s).1,
      (router.select rule (router.narrowed rule r) s).2)

/-- **What a rule that matched makes of a request does not depend on the context.** -/
theorem decideBy_assign (router : Router σ) (rule : Rule) (ctx : Context) (r : LeadRequest)
    (s : σ) :
    ((router.decideBy rule ctx r s).1.assignment, (router.decideBy rule ctx r s).2) =
      router.assign rule r s := by
  unfold assign
  cases hpond : rule.pond? with
  | some id =>
      rw [decideBy_of_pond hpond]
      rfl
  | none =>
      rw [decideBy_of_agents hpond]
      rfl

/-- **Contexts that lead to the same rule, or to none, lead to the same assignment.** -/
theorem route_assignment_eq (router : Router σ) {rules : RuleSet} {ctx other : Context}
    (h : firstMatch? rules other = firstMatch? rules ctx) (r : LeadRequest) (s : σ) :
    ((router.route rules other r s).1.assignment, (router.route rules other r s).2) =
      ((router.route rules ctx r s).1.assignment, (router.route rules ctx r s).2) := by
  cases hfirst : firstMatch? rules ctx with
  | none =>
      rw [route_of_none hfirst, route_of_none (h.trans hfirst)]
      rfl
  | some rule =>
      rw [route_of_firstMatch hfirst, route_of_firstMatch (h.trans hfirst), decideBy_assign,
        decideBy_assign]

end Router

/-! ## 4. Agents without an address -/

/-- **Two requests that differ in their address only**: in the lead and the tenant, in whether it is
    a quiet hour and in the team to fall back on. -/
structure LeadRequest.Readdressed (r other : LeadRequest) : Prop where
  agents_eq : other.agents = r.agents
  policy_eq : other.policy = r.policy
  geographyImportance_eq : other.geographyImportance = r.geographyImportance
  priceBandImportance_eq : other.priceBandImportance = r.priceBandImportance

namespace LeadRequest.Readdressed

variable {σ : Type} {r other : LeadRequest}

theorem ranking_eq (h : r.Readdressed other) : other.ranking = r.ranking := by
  have hpolicy : other.effectivePolicy = r.effectivePolicy := by
    unfold effectivePolicy
    rw [h.policy_eq]
  have himportance : other.importance = r.importance := by
    unfold importance
    rw [h.geographyImportance_eq, h.priceBandImportance_eq]
  unfold ranking scores admits
  rw [hpolicy, himportance, h.agents_eq]

variable [Zones]

/-- A rule changes both requests in the same way. -/
theorem narrowed (h : r.Readdressed other) (router : Router σ) (rule : Rule) :
    (router.narrowed rule r).Readdressed (router.narrowed rule other) where
  agents_eq := by rw [Router.narrowed_agents, Router.narrowed_agents, h.agents_eq]
  policy_eq := by
    unfold Router.narrowed Router.scope
    rw [h.policy_eq]
  geographyImportance_eq := h.geographyImportance_eq
  priceBandImportance_eq := h.priceBandImportance_eq

theorem select_agents (h : r.Readdressed other) (router : Router σ) (rule : Rule) (s : σ) :
    ((router.select rule other s).1.agents, (router.select rule other s).2) =
      ((router.select rule r s).1.agents, (router.select rule r s).2) := by
  unfold Router.select
  split
  · unfold routeWith
    rw [h.agents_eq, h.ranking_eq]
    rfl
  · unfold route
    rw [h.ranking_eq, Selection.of_agents, Selection.of_agents]

/-- **The address of a request changes neither who is selected nor what is remembered.** -/
theorem route_agents (h : r.Readdressed other) (router : Router σ) (rules : RuleSet)
    (ctx : Context) (s : σ) :
    ((router.route rules ctx other s).1.agents?, (router.route rules ctx other s).2) =
      ((router.route rules ctx r s).1.agents?, (router.route rules ctx r s).2) := by
  cases hfirst : Router.firstMatch? rules ctx with
  | none =>
      rw [Router.route_of_none hfirst, Router.route_of_none hfirst]
      rfl
  | some rule =>
      rw [Router.route_of_firstMatch hfirst, Router.route_of_firstMatch hfirst]
      cases hpond : rule.pond? with
      | some id =>
          rw [Router.decideBy_of_pond hpond, Router.decideBy_of_pond hpond]
      | none =>
          rw [Router.decideBy_of_agents hpond, Router.decideBy_of_agents hpond]
          obtain ⟨hagents, hstate⟩ :=
            Prod.mk.inj ((h.narrowed router rule).select_agents router rule s)
          exact Prod.ext (congrArg some hagents) hstate

end LeadRequest.Readdressed

/-! ## 5. Separation -/

namespace Router

section Parts

variable [Zones] {σ : Type}

/-- **Eligibility and ranking do not reach into one another.** (1) For one context the grounds of a
    decision are the same for any two requests and whatever the rotation remembers. (2) For one
    request and what the rotation remembers, any two contexts with the same first match, or with
    none, lead to the same pond or the same selection, the same offers and the same memory. (3) Two
    requests that differ in their address only get the same agents, with the same offers and the
    same memory. -/
theorem route_separates (router : Router σ) (rules : RuleSet) :
    (∀ ctx r other s t,
      (router.route rules ctx other t).1.grounds = (router.route rules ctx r s).1.grounds) ∧
    (∀ ctx other, firstMatch? rules other = firstMatch? rules ctx → ∀ r s offers,
      (router.route rules other r s).1.assignment = (router.route rules ctx r s).1.assignment ∧
      (router.route rules other r s).2 = (router.route rules ctx r s).2 ∧
      (router.recorded.route rules other r (s, offers)).2 =
        (router.recorded.route rules ctx r (s, offers)).2) ∧
    ∀ r other : LeadRequest, r.Readdressed other → ∀ ctx s offers,
      (router.route rules ctx other s).1.agents? = (router.route rules ctx r s).1.agents? ∧
      (router.route rules ctx other s).2 = (router.route rules ctx r s).2 ∧
      (router.recorded.route rules ctx other (s, offers)).2 =
        (router.recorded.route rules ctx r (s, offers)).2 := by
  refine ⟨fun ctx r other s t => ?_, fun ctx other hfirst r s offers => ?_,
    fun r other haddress ctx s offers => ?_⟩
  · rw [route_grounds, route_grounds]
  · obtain ⟨hassignment, hstate⟩ := Prod.mk.inj (router.route_assignment_eq hfirst r s)
    obtain ⟨-, hrecord⟩ := Prod.mk.inj (router.recorded.route_assignment_eq hfirst r (s, offers))
    exact ⟨hassignment, hstate, hrecord⟩
  · obtain ⟨hagents, hstate⟩ := Prod.mk.inj (haddress.route_agents router rules ctx s)
    obtain ⟨-, hrecord⟩ := Prod.mk.inj (haddress.route_agents router.recorded rules ctx (s, offers))
    exact ⟨hagents, hstate, hrecord⟩

end Parts

/-- A person of seventy is routed like one of whom nothing is known; the same rule matches where
    there are no agents; and in a quiet hour the turn goes to the same agent. -/
theorem route_separates_east :
    let r := Example.request [Example.agent "ann" 2 (some 3), Example.agent "bob" 2 (some 1)]
    let aged := { Example.context with person := { Person.unknown with age := some 70 } }
    let quiet := { r with leadId := "other lead", quietHours := true }
    let router : Router Turns := ⟨.standard, some Turns.rotation⟩
    let here := router.route Example.rules Example.context r .empty
    firstMatch? Example.rules aged = firstMatch? Example.rules Example.context ∧
      r.Readdressed quiet ∧
      here.1.grounds = .routed "east" (.ofChecks []) ∧
      (router.route Example.rules Example.context (Example.request []) .empty).1.grounds =
        here.1.grounds ∧
      (router.route Example.rules aged r .empty).1.assignment = here.1.assignment ∧
      (router.recorded.route Example.rules aged r (.empty, [])).2 =
        (router.recorded.route Example.rules Example.context r (.empty, [])).2 ∧
      (router.route Example.rules Example.context quiet .empty).1.agents? = here.1.agents? ∧
      (router.route Example.rules Example.context quiet .empty).2 = here.2 := by
  intro r aged quiet router here
  have hfirst : firstMatch? Example.rules aged = firstMatch? Example.rules Example.context := by
    rw [Example.firstMatch?_rules]
    exact firstMatch?_of_unconditional Example.rule aged rfl rfl
  have haddress : r.Readdressed quiet := ⟨rfl, rfl, rfl, rfl⟩
  have hgrounds : here.1.grounds = .routed "east" (.ofChecks []) := by
    rw [route_grounds, groundsFor, Example.firstMatch?_rules]
    rfl
  obtain ⟨hinput, hcontext, hagents⟩ := route_separates router Example.rules
  obtain ⟨hassignment, -, hrecord⟩ := hcontext Example.context aged hfirst r .empty []
  obtain ⟨hselected, hstate, -⟩ := hagents r quiet haddress Example.context .empty []
  exact ⟨hfirst, haddress, hgrounds, hinput Example.context r (Example.request []) .empty .empty,
    hassignment, hrecord, hselected, hstate⟩

end Router

end LeadRouting
