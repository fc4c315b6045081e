import LeadRouting.Proofs.Fairness

/-!
# What the turns remember

What a rotation remembers cannot be seen; decisions can. This file ties the one to the other, lead
by lead, for a router that takes turns.

* `Step`, `Router.steps` -- a run, lead by lead: what was remembered, the decision, what is then;
* `Step.BreaksTie step team` -- what can be seen of a turn: the rule of the lead takes turns in the
  team, and somebody else among the selected agents agrees with the first one;
* `Step.Remembers` -- the SPECIFICATION of a step: the agent that a broken tie puts first is
  remembered for its team and nothing else changes; without a broken tie nothing changes at all;
* `LastShown` -- what the steps of a run show of a team;
* `Decision.Reorders` -- two decisions differ at most in the order of the selected agents;
* `Router.step_remembers`, `Router.route_reorders` -- one lead, from whatever is remembered;
* **`Router.turning_remembers`** -- a run that starts with nothing: every step remembers so and is,
  but for the order, the decision without a rotation; in the end the first agent of the last broken
  tie of a team is what is remembered of it.
-/

namespace LeadRouting

/-! ## 1. A run, lead by lead -/

section Steps

variable [Zones]

/-- One lead of a run. -/
structure Step (σ : Type) where
  lead : Lead
  before : σ
  decision : Decision
  after : σ

/-- **The lead breaks a tie of the team**: it is routed by a rule that takes turns in the team, and
    behind the first of the selected agents stands one with the same score and open leads. -/
def Step.BreaksTie {σ : Type} (step : Step σ) (team : String) : Prop :=
  ∃ rule sel first rest, Router.firstMatch? step.lead.rules step.lead.context = some rule ∧
    rule.rotatingTeam? = some team ∧
    step.decision = .routed rule.id (rule.evaluate step.lead.context) sel ∧
    sel.agents = first :: rest ∧ ∃ a ∈ rest, a.ties first = true

/-- **What one lead leaves behind in the turns.** -/
structure Step.Remembers (step : Step Turns) : Prop where
  turned : ∀ team, step.BreaksTie team → ∃ first, step.decision.first? = some first ∧
    step.after.last team = some first.userId ∧
    ∀ other, other ≠ team → step.after.last other = step.before.last other
  kept : (∀ team, ¬ step.BreaksTie team) → step.after = step.before

/-- **What the steps of a run show of a team**: the agent that the last of them to break a tie of the
    team put first; where none did, what was remembered at first. -/
inductive LastShown (team : String) (start : Option String) (steps : List (Step Turns)) :
    Option String → Prop where
  | untouched (hnone : ∀ step ∈ steps, ¬ step.BreaksTie team) : LastShown team start steps start
  | turned (earlier later : List (Step Turns)) (step : Step Turns) (first : ScoredAgent)
      (hsplit : steps = earlier ++ step :: later) (hbreaks : step.BreaksTie team)
      (hlater : ∀ other ∈ later, ¬ other.BreaksTie team)
      (hfirst : step.decision.first? = some first) :
      LastShown team start steps (some first.userId)

/-- Where no tie of a team is broken its last turn stays. -/
theorem Step.Remembers.last_of_not_breaksTie {step : Step Turns} (h : step.Remembers)
    {team : String} (hteam : ¬ step.BreaksTie team) :
    step.after.last team = step.before.last team := by
  by_cases hother : ∃ other, step.BreaksTie other
  · obtain ⟨other, hbreaks⟩ := hother
    obtain ⟨-, -, -, hkept⟩ := h.turned other hbreaks
    exact hkept team fun e => hteam (e ▸ hbreaks)
  · rw [h.kept fun other hbreaks => hother ⟨other, hbreaks⟩]

/-- A step comes before others that go on from what it leaves behind. -/
theorem Step.Remembers.lastShown_cons {step : Step Turns} (h : step.Remembers) {team : String}
    {rest : List (Step Turns)} {last : Option String}
    (hrest : LastShown team (step.after.last team) rest last) :
    LastShown team (step.before.last team) (step :: rest) last := by
  cases hrest with
  | turned earlier later other first hsplit hbreaks hlater hfirst =>
      refine .turned (step :: earlier) later other first ?_ hbreaks hlater hfirst
      rw [hsplit, List.cons_append]
  | untouched hnone =>
      by_cases hbreaks : step.BreaksTie team
      · obtain ⟨first, hfirst, hturn, -⟩ := h.turned team hbreaks
        rw [hturn]
        exact .turned [] rest step first rfl hbreaks hnone hfirst
      · rw [h.last_of_not_breaksTie hbreaks]
        exact .untouched (List.forall_mem_cons.mpr ⟨hbreaks, hnone⟩)

end Steps

/-- The two decisions are of one kind, name one rule and tell the same of conditions, and their
    selections differ at most in the order of the agents. -/
inductive Decision.Reorders : Decision → Decision → Prop where
  | routed (ruleId : String) (evaluation : Evaluation) (sel : Selection)
      (agents : List ScoredAgent) (h : agents.Perm sel.agents) :
      Reorders (.routed ruleId evaluation { sel with agents := agents })
        (.routed ruleId evaluation sel)
  | pond (ruleId pondId : String) (evaluation : Evaluation) :
      Reorders (.pond ruleId pondId evaluation) (.pond ruleId pondId evaluation)
  | unmatched (verdicts : List RuleVerdict) (sel : Selection) :
      Reorders (.unmatched verdicts sel) (.unmatched verdicts sel)

namespace Router

variable [Zones]

/-- One lead, with what is remembered. -/
def step {σ : Type} (router : Router σ) (lead : Lead) (s : σ) : Step σ :=
  ⟨lead, s, (router.handle lead s).1, (router.handle lead s).2⟩

/-- A run, lead by lead. -/
def steps {σ : Type} (router : Router σ) : List Lead → σ → List (Step σ)
  | [], _ => []
  | lead :: rest, s => router.step lead s :: router.steps rest (router.step lead s).after

theorem steps_lead {σ : Type} (router : Router σ) (leads : List Lead) (s : σ) :
    (router.steps leads s).map Step.lead = leads := by
  induction leads generalizing s with
  | nil => rfl
  | cons lead rest ih => rw [steps, List.map_cons, ih, step]

theorem steps_decision {σ : Type} (router : Router σ) (leads : List Lead) (s : σ) :
    (router.steps leads s).map Step.decision = (router.run leads s).1 := by
  induction leads generalizing s with
  | nil => rfl
  | cons lead rest ih => rw [steps, List.map_cons, ih, run, step]

/-! ## 2. The decision without a rotation -/

/-- **A rotation changes the order of the selected agents at most.** -/
theorem route_reorders {σ : Type} (router : Router σ) (rules : RuleSet) (ctx : Context)
    (r : LeadRequest) (s : σ) :
    (router.route rules ctx r s).1.Reorders ((plain router.policy).route rules ctx r ()).1 := by
  obtain ⟨hfirst, hroute⟩ | ⟨rule, id, hfirst, hpond, hroute⟩ | ⟨rule, hfirst, hpond, hroute⟩ :=
    route_cases router rules ctx r s
  · rw [hroute, route_of_none hfirst]
    exact .unmatched _ _
  · rw [hroute, route_of_firstMatch hfirst, decideBy_of_pond hpond]
    exact .pond _ _ _
  · obtain ⟨out, hperm, hsel⟩ := router.select_perm rule (router.narrowed rule r) s
    have hnarrowed : (plain router.policy).narrowed rule r = router.narrowed rule r := rfl
    have hplain : (plain router.policy).select rule (router.narrowed rule r) () =
        ((router.narrowed rule r).route, ()) := select_of_no_rotation rfl
    rw [hroute, route_of_firstMatch hfirst, decideBy_of_agents hpond, hnarrowed, hplain, hsel,
      Selection.of_perm _ hperm]
    exact .routed _ _ _ out hperm

end Router

/-! ## 3. One turn -/

/-- Two agree in front of a list exactly where somebody agrees with its first agent. -/
theorem two_le_tiedWithFirst_iff {out : List ScoredAgent} :
    2 ≤ (tiedWithFirst out).length ↔
      ∃ first rest, out = first :: rest ∧ ∃ a ∈ rest, a.ties first = true := by
  cases out with
  | nil => simp [tiedWithFirst]
  | cons first rest => exact two_le_filter_ties_iff

/-- **A tie can be seen in the selection** exactly where the rotation was asked. -/
theorem routeWith_tied_iff {σ : Type} (r : LeadRequest) (rot : Rotation σ) (team : String) (s : σ) :
    (∃ first rest, (r.routeWith rot team s).1.agents = first :: rest ∧
      ∃ a ∈ rest, a.ties first = true) ↔ 2 ≤ (leaders r.ranking).length := by
  have harr := arrange_arranged rot team r.agents r.ranking s
  have hperm := harr.tiedWithFirst_perm (tiedFront_leaders r.ranking) r.ranking_pairwise
  rw [← hperm.length_eq]
  exact two_le_tiedWithFirst_iff.symm

/-- **Who gets the turn comes first**, and this is what is remembered then. -/
theorem routeWith_turn {r : LeadRequest} (hk : 2 ≤ (leaders r.ranking).length) (team : String)
    (t : Turns) : ∃ a, (r.routeWith Turns.rotation team t).1.agents.head? = some a ∧
      (r.routeWith Turns.rotation team t).2 = t.record team a.userId := by
  have hoffered := Offer.of_perm team r.agents (leaders r.ranking)
  have hsome : (Offer.of team r.agents (leaders r.ranking)).tied ≠ [] := by
    intro e
    have hlen := hoffered.length_eq
    rw [e, List.length_nil, List.length_map] at hlen
    omega
  obtain ⟨id, hafter⟩ := Turns.exists_after_eq_some hsome (t.last team)
  obtain ⟨a, -, -, hhead, hstate⟩ := routeWith_of_after hk hafter
  exact ⟨a, hhead, hstate⟩

/-! ## 4. One lead -/

/-- A lead that breaks no tie is to leave everything as it is. -/
theorem Step.Remembers.of_kept [Zones] {step : Step Turns} (hnone : ∀ team, ¬ step.BreaksTie team)
    (h : step.after = step.before) : step.Remembers :=
  ⟨fun team hbreaks => absurd hbreaks (hnone team), fun _ => h⟩

/-- What it takes for a routed lead to break a tie. -/
theorem Step.breaksTie_routed_iff [Zones] {lead : Lead} {rule : Rule} {sel : Selection}
    {s s' : Turns} (hfirst : Router.firstMatch? lead.rules lead.context = some rule)
    {team : String} :
    Step.BreaksTie ⟨lead, s, .routed rule.id (rule.evaluate lead.context) sel, s'⟩ team ↔
      rule.rotatingTeam? = some team ∧
        ∃ first rest, sel.agents = first :: rest ∧ ∃ a ∈ rest, a.ties first = true := by
  constructor
  · rintro ⟨other, picked, first, rest, hother, hteam, hdecision, hsel, htie⟩
    obtain rfl : rule = other := Option.some.inj (hfirst.symm.trans hother)
    obtain ⟨-, -, rfl⟩ := Decision.routed.inj hdecision
    exact ⟨hteam, first, rest, hsel, htie⟩
  · rintro ⟨hteam, first, rest, hsel, htie⟩
    exact ⟨rule, sel, first, rest, hfirst, hteam, rfl, hsel, htie⟩

namespace Router

section Remembering

variable [Zones] {lead : Lead} {rule : Rule}

/-- **A routed lead remembers** the agent that the turn went to, if it broke a tie. -/
theorem select_remembers (policy : Policy)
    (hfirst : firstMatch? lead.rules lead.context = some rule) (r : LeadRequest) (t : Turns) :
    Step.Remembers ⟨lead, t,
      .routed rule.id (rule.evaluate lead.context) ((turning policy).select rule r t).1,
      ((turning policy).select rule r t).2⟩ := by
  cases hteam : rule.rotatingTeam? with
  | none =>
      refine .of_kept (fun team hbreaks => ?_) ?_
      · obtain ⟨hsome, -⟩ := (Step.breaksTie_routed_iff hfirst).mp hbreaks
        rw [hteam] at hsome
        cases hsome
      · rw [select_of_no_team hteam]
  | some team =>
      rw [select_of_rotatingTeam rfl hteam]
      have htied := routeWith_tied_iff r Turns.rotation team t
      by_cases hk : 2 ≤ (leaders r.ranking).length
      · obtain ⟨a, hhead, hstate⟩ := routeWith_turn hk team t
        refine ⟨fun other hbreaks => ⟨a, hhead, ?_⟩, fun hnone => ?_⟩
        · obtain ⟨hother, -⟩ := (Step.breaksTie_routed_iff hfirst).mp hbreaks
          obtain rfl : team = other := Option.some.inj (hteam.symm.trans hother)
          rw [hstate]
          exact ⟨Turns.record_last_self t team a.userId,
            fun other hne => Turns.record_last_of_ne t a.userId hne⟩
        · exact absurd ((Step.breaksTie_routed_iff hfirst).mpr ⟨hteam, htied.mpr hk⟩) (hnone team)
      · refine .of_kept (fun other hbreaks => ?_) ?_
        · obtain ⟨-, hsel⟩ := (Step.breaksTie_routed_iff hfirst).mp hbreaks
          exact hk (htied.mp hsel)
        · show (r.routeWith Turns.rotation team t).2 = t
          rw [routeWith_state, if_pos (by omega)]

/-- **One lead, from whatever is remembered.** -/
theorem step_remembers (policy : Policy) (lead : Lead) (t : Turns) :
    ((turning policy).step lead t).Remembers := by
  unfold step handle
  obtain ⟨-, hroute⟩ | ⟨rule, id, -, -, hroute⟩ | ⟨rule, hfirst, -, hroute⟩ :=
    route_cases (turning policy) lead.rules lead.context lead.request t
  · rw [hroute]
    refine .of_kept ?_ rfl
    rintro team ⟨rule, sel, first, rest, -, -, hdecision, -⟩
    cases hdecision
  · rw [hroute]
    refine .of_kept ?_ rfl
    rintro team ⟨rule, sel, first, rest, -, -, hdecision, -⟩
    cases hdecision
  · rw [hroute]
    exact select_remembers policy hfirst _ t

/-! ## 5. A run -/

/-- **Every step of a run remembers so**, and decides as a router without a rotation but for the
    order of the agents. -/
theorem steps_remember (policy : Policy) (leads : List Lead) (t : Turns) :
    ∀ step ∈ (turning policy).steps leads t, step.Remembers ∧
      step.decision.Reorders ((plain policy).handle step.lead ()).1 := by
  induction leads generalizing t with
  | nil => exact fun step hm => absurd hm List.not_mem_nil
  | cons lead rest ih =>
      intro step hm
      rcases List.mem_cons.mp hm with rfl | hm
      · exact ⟨step_remembers policy lead t, route_reorders (turning policy) _ _ _ t⟩
      · exact ih _ step hm

/-- **What is remembered of a team after a run**: the agent that the last broken tie of the team put
    first. -/
theorem run_lastShown (policy : Policy) (leads : List Lead) (t : Turns) (team : String) :
    LastShown team (t.last team) ((turning policy).steps leads t)
      (((turning policy).run leads t).2.last team) := by
  induction leads generalizing t with
  | nil => exact .untouched fun step hm => absurd hm List.not_mem_nil
  | cons lead rest ih =>
      exact (step_remembers policy lead t).lastShown_cons (ih ((turning policy).step lead t).after)

/-- **What the turns remember of a run** that starts with nothing, through any leads. Every step
    leaves behind what `Step.Remembers` says and decides as a router without a rotation but for the
    order of the agents; and what is remembered of a team in the end can be read off the
    decisions. -/
theorem turning_remembers (policy : Policy) (leads : List Lead) :
    ((turning policy).steps leads Turns.empty).map Step.lead = leads ∧
    ((turning policy).steps leads Turns.empty).map Step.decision =
      ((turning policy).run leads Turns.empty).1 ∧
    (∀ step ∈ (turning policy).steps leads Turns.empty, step.Remembers ∧
      step.decision.Reorders ((plain policy).handle step.lead ()).1) ∧
    ∀ team, LastShown team none ((turning policy).steps leads Turns.empty)
      (((turning policy).run leads Turns.empty).2.last team) :=
  ⟨steps_lead _ leads Turns.empty, steps_decision _ leads Turns.empty,
    steps_remember policy leads Turns.empty, run_lastShown policy leads Turns.empty⟩

end Remembering

/-- A lead that leaves two agents tied comes twice: each time it breaks the tie, and who comes first
    is remembered. -/
theorem turning_remembers_twice :
    let lead : Lead := ⟨Example.rules, Example.context, Example.request
      [Example.agent "ann" 2 (some 3), Example.agent "bob" 2 (some 1),
        Example.agent "dan" 4 (some 0)]⟩
    let steps := (turning .standard).steps [lead, lead] Turns.empty
    steps.length = 2 ∧ ∀ step ∈ steps, step.BreaksTie "east" ∧
      ∃ first, step.decision.first? = some first ∧
        step.after.last "east" = some first.userId := by
  intro lead steps
  have hmatch : firstMatch? lead.rules lead.context = some Example.rule :=
    Example.firstMatch?_rules
  have htied : 2 ≤ (leaders (asked .standard lead Example.rule).ranking).length := by
    rw [LeadRequest.ranking_of_pairwise (by decide +kernel)]
    decide +kernel
  have hbreaks : ∀ t, ((turning .standard).step lead t).BreaksTie "east" := by
    intro t
    unfold step
    rw [handle_of_rotatingTeam hmatch rfl rfl]
    exact (Step.breaksTie_routed_iff hmatch).mpr ⟨rfl, (routeWith_tied_iff _ _ _ t).mpr htied⟩
  obtain ⟨-, -, hsteps, -⟩ := turning_remembers .standard [lead, lead]
  refine ⟨rfl, fun step hm => ?_⟩
  have hbroken : step.BreaksTie "east" := by
    rcases List.mem_cons.mp hm with rfl | hm
    · exact hbreaks _
    · rw [List.mem_singleton.mp hm]
      exact hbreaks _
  obtain ⟨first, hfirst, hlast, -⟩ := (hsteps step hm).1.turned "east" hbroken
  exact ⟨hbroken, first, hfirst, hlast⟩

end Router

end LeadRouting
