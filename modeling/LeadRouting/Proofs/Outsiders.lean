import LeadRouting.Proofs.Memory

/-!
# Outsiders in the turns of a team

A rule may have several targets: teams that take turns, teams that do not, agents by id. They make
up one pool, and those who tie at its top are offered to the rotation of the FIRST team that takes
turns, whoever let them in. So the turns of a team may go to an agent that is not on it.

* `Rule.LetsIn` -- why an agent stands in the pool of a rule: it is on the team, or another target
  of the rule takes it in;
* `Router.offers` -- what the rotation of a router is offered on a lead;
* `Example.mixed` -- a rule whose team is joined by an agent of another team, and
  `offers_outsider`, what comes of it;
* **`turns_let_in`** -- nobody else is offered and nobody else is remembered: each has one of the
  two reasons, for the lead on which it was offered.
-/

namespace LeadRouting

/-! ## 1. Who is let in -/

/-- **Why an agent may be offered in the turns of a team**: it is on the team, or the rule has
    another target and that takes it in. -/
inductive Rule.LetsIn [Zones] (rule : Rule) (team : String) (a : Agent) : Prop where
  | member (hteam : a.teamId = some team)
  | other (t : Target) (ht : t ∈ rule.targets) (hincludes : t.includes a = true)
      (hother : ∀ strategy, t ≠ .team team strategy)

theorem Rule.letsIn_of_wanted [Zones] {rule : Rule} {a : Agent} (h : Wanted rule.targets a)
    (team : String) : rule.LetsIn team a := by
  obtain ⟨t, ht, hincludes⟩ := h
  by_cases hteam : ∃ strategy, t = .team team strategy
  · obtain ⟨strategy, rfl⟩ := hteam
    exact .member (of_decide_eq_true hincludes)
  · exact .other t ht hincludes fun strategy e => hteam ⟨strategy, e⟩

/-- An entry that is taken stands in the pool and is let in. -/
theorem Taken.letsIn [Zones] {rule : Rule} {pool : List Agent} {a : Agent}
    (h : Taken rule.targets pool a) (team : String) : a ∈ pool ∧ rule.LetsIn team a := by
  obtain ⟨before, after, rfl, hwanted, -⟩ := h
  exact ⟨List.mem_append_right _ List.mem_cons_self, Rule.letsIn_of_wanted hwanted team⟩

namespace Router

variable [Zones] {σ : Type}

/-! ## 2. What is offered on a lead -/

/-- What the rotation of the router is offered on a lead. -/
def offers (router : Router σ) (rules : RuleSet) (ctx : Context) (r : LeadRequest) (s : σ) :
    List Offer :=
  (router.recorded.route rules ctx r (s, [])).2.2

/-- A rule that takes turns has its rotation asked about its pool, and about nothing else. -/
theorem offers_of_rotatingTeam {router : Router σ} {rot : Rotation σ} {rules : RuleSet}
    {ctx : Context} {rule : Rule} {team : String} (hrot : router.rotation = some rot)
    (hmatch : firstMatch? rules ctx = some rule) (hpond : rule.pond? = none)
    (hteam : rule.rotatingTeam? = some team) (r : LeadRequest) (s : σ) :
    router.offers rules ctx r s =
      offersFor team (router.narrowed rule r).agents (router.narrowed rule r).ranking := by
  have hrecorded : router.recorded.rotation = some rot.recorded := by
    rw [recorded, hrot, Option.map_some]
  unfold offers
  rw [route_of_firstMatch hmatch, decideBy_of_agents hpond,
    select_of_rotatingTeam hrecorded hteam]
  unfold LeadRequest.routeWith
  rw [arrange_recorded, List.nil_append]
  rfl

/-- **An offer comes from the rule that the lead matches**, for its first team that takes turns. -/
theorem offers_cases {router : Router σ} {rules : RuleSet} {ctx : Context} {r : LeadRequest}
    {s : σ} {o : Offer} (h : o ∈ router.offers rules ctx r s) :
    ∃ rule, firstMatch? rules ctx = some rule ∧ rule.rotatingTeam? = some o.teamId ∧
      o ∈ offersFor o.teamId (router.narrowed rule r).agents
        (router.narrowed rule r).ranking := by
  obtain ⟨-, hroute⟩ | ⟨rule, id, -, -, hroute⟩ | ⟨rule, hmatch, hpond, hroute⟩ :=
    route_cases router.recorded rules ctx r (s, [])
  · unfold offers at h
    rw [hroute] at h
    exact absurd h List.not_mem_nil
  · unfold offers at h
    rw [hroute] at h
    exact absurd h List.not_mem_nil
  · cases hteam : rule.rotatingTeam? with
    | none =>
        unfold offers at h
        rw [hroute, select_of_no_team hteam] at h
        exact absurd h List.not_mem_nil
    | some team =>
        cases hrot : router.rotation with
        | none =>
            have hrecorded : router.recorded.rotation = none := by
              rw [recorded, hrot, Option.map_none]
            unfold offers at h
            rw [hroute, select_of_no_rotation hrecorded] at h
            exact absurd h List.not_mem_nil
        | some rot =>
            rw [offers_of_rotatingTeam hrot hmatch hpond hteam] at h
            obtain ⟨-, rfl⟩ := mem_offersFor_iff.mp h
            exact ⟨rule, hmatch, hteam, h⟩

/-- **Everybody who is offered stands in the pool of the request and was let in.** -/
theorem offered_letsIn {router : Router σ} {rules : RuleSet} {ctx : Context} {r : LeadRequest}
    {s : σ} {o : Offer} (h : o ∈ router.offers rules ctx r s) :
    ∃ rule, firstMatch? rules ctx = some rule ∧ rule.rotatingTeam? = some o.teamId ∧
      ∀ id ∈ o.tied, ∃ a ∈ r.agents, a.userId = id ∧ rule.LetsIn o.teamId a := by
  obtain ⟨rule, hmatch, hteam, hoffer⟩ := offers_cases h
  refine ⟨rule, hmatch, hteam, fun id hid => ?_⟩
  obtain ⟨-, ho⟩ := mem_offersFor_iff.mp hoffer
  rw [ho] at hid
  obtain ⟨-, x, -, hx, -, rfl⟩ := (LeadRequest.mem_offered_iff o.teamId id).mp hid
  obtain ⟨a, ha, -, rfl, -⟩ := LeadRequest.mem_ranking_iff.mp hx
  obtain ⟨hpool, hin⟩ := (mem_poolOf_iff.mp ha).letsIn o.teamId
  exact ⟨a, hpool, rfl, hin⟩

end Router

/-! ## 3. An agent of another team -/

namespace Example

/-- The rule of the eastern team with an agent named besides. -/
def mixed : Rule := { rule with targets := [.team "east" .roundRobin, .agents ["bob"]] }

/-- A lead for two agents of the eastern team and one of the western. -/
def mixedLead : Lead where
  rules := ⟨[mixed]⟩
  context := context
  request := request
    [agent "abe" 2 none, agent "ann" 2 none, { agent "bob" 2 none with teamId := some "west" }]

theorem firstMatch?_mixed : Router.firstMatch? mixedLead.rules mixedLead.context = some mixed :=
  Router.firstMatch?_of_unconditional mixed context rfl rfl

/-- All three tie, and the turns have them in this order. -/
theorem offersFor_mixed :
    offersFor "east" (Router.asked .standard mixedLead mixed).agents
      (Router.asked .standard mixedLead mixed).ranking = [⟨"east", ["abe", "ann", "bob"]⟩] := by
  have hrank : (Router.asked .standard mixedLead mixed).ranking =
      (Router.asked .standard mixedLead mixed).scores.filter
        (Router.asked .standard mixedLead mixed).admits :=
    LeadRequest.ranking_of_pairwise (by decide +kernel)
  have hids : (leaders ((Router.asked .standard mixedLead mixed).scores.filter
      (Router.asked .standard mixedLead mixed).admits)).map ScoredAgent.userId =
        ["abe", "ann", "bob"] := by decide +kernel
  have hturns : ["abe", "ann", "bob"].Pairwise fun a b =>
      turnsBefore (Router.asked .standard mixedLead mixed).agents a b = true := by decide +kernel
  rw [hrank, offersFor, if_neg (by decide +kernel), Offer.of, hids,
    List.mergeSort_of_pairwise hturns]

theorem offers_mixed (t : Turns) :
    (Router.turning .standard).offers mixedLead.rules mixedLead.context mixedLead.request t =
      [⟨"east", ["abe", "ann", "bob"]⟩] := by
  rw [Router.offers_of_rotatingTeam rfl firstMatch?_mixed rfl rfl]
  exact offersFor_mixed

/-- The lead moves the turns of the eastern team on among the three. -/
theorem handle_mixed (t : Turns) : ((Router.turning .standard).handle mixedLead t).2 =
    (t.next ⟨"east", ["abe", "ann", "bob"]⟩).2 := by
  have hoffer : ⟨"east", ["abe", "ann", "bob"]⟩ ∈
      offersFor "east" (Router.asked .standard mixedLead mixed).agents
        (Router.asked .standard mixedLead mixed).ranking :=
    offersFor_mixed ▸ List.mem_singleton_self _
  obtain ⟨hk, ho⟩ := mem_offersFor_iff.mp hoffer
  rw [Router.handle_of_rotatingTeam firstMatch?_mixed rfl rfl, routeWith_state,
    if_neg (by omega), ← ho]
  rfl

/-- After three such leads the agent of the western team has had the last turn of the eastern. -/
theorem last_mixed :
    ((Router.turning .standard).run [mixedLead, mixedLead, mixedLead] .empty).2.last "east" =
      some "bob" := by
  have hrun : ((Router.turning .standard).run [mixedLead, mixedLead, mixedLead] .empty).2 =
      ((Router.turning .standard).handle mixedLead ((Router.turning .standard).handle mixedLead
        ((Router.turning .standard).handle mixedLead .empty).2).2).2 := rfl
  rw [hrun, handle_mixed, handle_mixed, handle_mixed]
  decide

end Example

namespace Router

/-- **An outsider is offered and remembered**: nobody with the id is on the team. -/
theorem offers_outsider :
    (turning .standard).offers Example.mixedLead.rules Example.mixedLead.context
        Example.mixedLead.request .empty = [⟨"east", ["abe", "ann", "bob"]⟩] ∧
      ((turning .standard).run [Example.mixedLead, Example.mixedLead, Example.mixedLead]
        .empty).2.last "east" = some "bob" ∧
      ¬ ∃ a ∈ Example.mixedLead.request.agents, a.userId = "bob" ∧ a.teamId = some "east" :=
  ⟨Example.offers_mixed .empty, Example.last_mixed, by decide⟩

/-! ## 4. What is remembered -/

section Turning

variable [Zones] {σ : Type}

/-- Every step of a run is one lead with what was remembered then. -/
theorem steps_eq (router : Router σ) (leads : List Lead) (s : σ) :
    ∀ step ∈ router.steps leads s, step = router.step step.lead step.before := by
  induction leads generalizing s with
  | nil => exact fun step hm => absurd hm List.not_mem_nil
  | cons lead rest ih =>
      intro step hm
      rcases List.mem_cons.mp hm with rfl | hm
      · rfl
      · exact ih _ step hm

/-- **One lead: who gets a turn of a team stands in the pool of the request and was let in.** -/
theorem first_letsIn {router : Router σ} {lead : Lead} {s : σ} {team : String}
    (h : (router.step lead s).BreaksTie team) {first : ScoredAgent}
    (hfirst : (router.step lead s).decision.first? = some first) :
    ∃ rule, firstMatch? lead.rules lead.context = some rule ∧ rule.rotatingTeam? = some team ∧
      ∃ a ∈ lead.request.agents, a.userId = first.userId ∧ rule.LetsIn team a := by
  obtain ⟨rule, sel, head, rest, hmatch, hteam, hdecision, hsel, -⟩ := h
  obtain ⟨matched, hmatched, -, hselects⟩ := routed_selects (s := s) hdecision
  obtain rfl : rule = matched := Option.some.inj (hmatch.symm.trans hmatched)
  have hhead : first ∈ sel.agents := by
    rw [hdecision] at hfirst
    exact List.mem_of_head? hfirst
  obtain ⟨a, htaken, -, -, rfl, -⟩ := (hselects.mem_iff first).mp hhead
  obtain ⟨hpool, hin⟩ := htaken.letsIn team
  exact ⟨rule, hmatch, hteam, a, hpool, rfl, hin⟩

/-- **Who sees the turns of a team.** Whatever the rotation, it is offered agents of the pool of the
    request, for the first team of the matching rule that takes turns, and each of them is on that
    team or let in by another target of the rule. After any leads, who is remembered for a team had
    its turn on a lead after which no tie of the team was broken, and was such an agent then. -/
theorem turns_let_in :
    (∀ {σ : Type} (router : Router σ) (rules : RuleSet) (ctx : Context) (r : LeadRequest) (s : σ),
      ∀ o ∈ router.offers rules ctx r s, ∃ rule, firstMatch? rules ctx = some rule ∧
        rule.rotatingTeam? = some o.teamId ∧
        ∀ id ∈ o.tied, ∃ a ∈ r.agents, a.userId = id ∧ rule.LetsIn o.teamId a) ∧
    ∀ (policy : Policy) (leads : List Lead) (team id : String),
      ((turning policy).run leads .empty).2.last team = some id →
        ∃ earlier step later, (turning policy).steps leads .empty = earlier ++ step :: later ∧
          step.BreaksTie team ∧ (∀ other ∈ later, ¬ other.BreaksTie team) ∧
          step.after.last team = some id ∧
          ∃ rule, firstMatch? step.lead.rules step.lead.context = some rule ∧
            rule.rotatingTeam? = some team ∧
            ∃ a ∈ step.lead.request.agents, a.userId = id ∧ rule.LetsIn team a := by
  refine ⟨fun router rules ctx r s o ho => offered_letsIn ho, ?_⟩
  intro policy leads team id hlast
  have hshown := run_lastShown policy leads .empty team
  rw [hlast] at hshown
  cases hshown with
  | turned earlier later step first hsplit hbreaks hlater hfirst =>
      have hmem : step ∈ (turning policy).steps leads .empty :=
        hsplit ▸ List.mem_append_right _ List.mem_cons_self
      obtain ⟨other, hother, hturn, -⟩ :=
        (steps_remember policy leads .empty step hmem).1.turned team hbreaks
      obtain rfl : first = other := Option.some.inj (hfirst.symm.trans hother)
      have hstep := steps_eq (turning policy) leads .empty step hmem
      rw [hstep] at hbreaks hfirst
      refine ⟨earlier, step, later, hsplit, ?_, hlater, hturn, first_letsIn hbreaks hfirst⟩
      rwa [hstep]

end Turning

/-- Three agents are offered and have their turns, the last one let in by the target that names
    it. -/
theorem turns_let_in_mixed :
    ⟨"east", ["abe", "ann", "bob"]⟩ ∈ (turning .standard).offers Example.mixedLead.rules
        Example.mixedLead.context Example.mixedLead.request .empty ∧
      (∃ rule, firstMatch? Example.mixedLead.rules Example.mixedLead.context = some rule ∧
        ∀ id ∈ ["abe", "ann", "bob"], ∃ a ∈ Example.mixedLead.request.agents,
          a.userId = id ∧ rule.LetsIn "east" a) ∧
      ((turning .standard).run [Example.mixedLead, Example.mixedLead, Example.mixedLead]
        .empty).2.last "east" = some "bob" ∧
      ∃ step ∈ (turning .standard).steps
          [Example.mixedLead, Example.mixedLead, Example.mixedLead] .empty,
        step.BreaksTie "east" ∧ step.after.last "east" = some "bob" ∧
        ∃ rule, firstMatch? step.lead.rules step.lead.context = some rule ∧
          ∃ a ∈ step.lead.request.agents, a.userId = "bob" ∧ rule.LetsIn "east" a := by
  obtain ⟨hoffered, hremembered⟩ := turns_let_in
  have hmem : ⟨"east", ["abe", "ann", "bob"]⟩ ∈ (turning .standard).offers
      Example.mixedLead.rules Example.mixedLead.context Example.mixedLead.request .empty :=
    Example.offers_mixed .empty ▸ List.mem_singleton_self _
  obtain ⟨matched, hmatched, -, htied⟩ := hoffered (turning .standard) _ _ _ .empty _ hmem
  obtain ⟨earlier, step, later, hsplit, hbreaks, -, hlast, rule, hmatch, -, hin⟩ :=
    hremembered .standard _ "east" "bob" Example.last_mixed
  refine ⟨hmem, ⟨matched, hmatched, htied⟩, Example.last_mixed, step, ?_, hbreaks, hlast, rule,
    hmatch, hin⟩
  rw [hsplit]
  exact List.mem_append_right _ List.mem_cons_self

end Router

end LeadRouting
