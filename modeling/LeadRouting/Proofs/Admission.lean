import LeadRouting.Proofs.Decision

/-!
# Who is selected

Between the pool of a request and the agents of a decision stand the targets of the rule, the first
entry of every id, the two permissions, the floor, the ranking and a rotation. This file says who
comes out at the end.

* `Taken targets pool a` -- the entry `a` is the first one of its id that some target takes in, said
  with a split of the pool and without the list of ids that the code carries along;
* `mem_poolOf_iff` -- the pool of a rule holds the entries that are taken;
* `mem_ranking_iff` -- the ranking holds the scores of the ready entries that reach the floor;
* `Router.Selects` -- what a selection owes to a request and a rule, field by field;
* **`Router.routed_selects`** -- every routed decision owes that to the first rule that matches,
  whatever the rotation answers.
-/

namespace LeadRouting

/-! ## 1. The pool of a rule -/

/-- Some target takes the agent in. -/
def Wanted (targets : List Target) (a : Agent) : Prop := ∃ t ∈ targets, t.includes a = true

/-- **The entry is the first one of its id that some target takes in.** -/
def Taken (targets : List Target) (pool : List Agent) (a : Agent) : Prop :=
  ∃ before after, pool = before ++ a :: after ∧ Wanted targets a ∧
    ∀ b ∈ before, Wanted targets b → b.userId ≠ a.userId

/-- An entry stands behind entries that pass a test: it comes first, or the first entry passes and
    it stands so in the rest. -/
theorem exists_split_cons_iff {α : Type} {P : α → Prop} {a c : α} {rest : List α} :
    (∃ before after, c :: rest = before ++ a :: after ∧ ∀ b ∈ before, P b) ↔
      c = a ∨ P c ∧ ∃ before after, rest = before ++ a :: after ∧ ∀ b ∈ before, P b := by
  constructor
  · rintro ⟨before, after, hsplit, hbefore⟩
    cases before with
    | nil =>
        obtain ⟨hc, -⟩ := List.cons.inj hsplit
        exact Or.inl hc
    | cons d before =>
        obtain ⟨rfl, hrest⟩ := List.cons.inj hsplit
        obtain ⟨hd, hothers⟩ := List.forall_mem_cons.mp hbefore
        exact Or.inr ⟨hd, before, after, hrest, hothers⟩
  · rintro (rfl | ⟨hc, before, after, rfl, hbefore⟩)
    · exact ⟨[], rest, rfl, fun b hb => absurd hb List.not_mem_nil⟩
    · exact ⟨c :: before, after, rfl, List.forall_mem_cons.mpr ⟨hc, hbefore⟩⟩

/-- The list of ids that is carried along leaves the first entry of every id that it lacks. -/
theorem mem_firstEntries_iff {seen : List String} {pool : List Agent} {a : Agent} :
    a ∈ firstEntries seen pool ↔ a.userId ∉ seen ∧
      ∃ before after, pool = before ++ a :: after ∧ ∀ b ∈ before, b.userId ≠ a.userId := by
  induction pool generalizing seen with
  | nil => simp [firstEntries]
  | cons c rest ih =>
      unfold firstEntries
      rw [exists_split_cons_iff]
      by_cases hc : c.userId ∈ seen
      · rw [if_pos (List.contains_iff_mem.mpr hc), ih]
        constructor
        · rintro ⟨ha, hrest⟩
          have hne : c.userId ≠ a.userId := fun e => ha (e ▸ hc)
          exact ⟨ha, Or.inr ⟨hne, hrest⟩⟩
        · rintro ⟨ha, rfl | ⟨-, hrest⟩⟩
          · exact absurd hc ha
          · exact ⟨ha, hrest⟩
      · rw [if_neg fun h => hc (List.contains_iff_mem.mp h), List.mem_cons, ih, List.mem_cons,
          not_or]
        constructor
        · rintro (rfl | ⟨⟨hne, ha⟩, hrest⟩)
          · exact ⟨hc, Or.inl rfl⟩
          · exact ⟨ha, Or.inr ⟨fun e => hne e.symm, hrest⟩⟩
        · rintro ⟨ha, rfl | ⟨hne, hrest⟩⟩
          · exact Or.inl rfl
          · exact Or.inr ⟨⟨fun e => hne e.symm, ha⟩, hrest⟩

/-- Of the entries that pass a test the first one of every id is left. -/
theorem mem_firstEntries_filter_iff {p : Agent → Bool} {pool : List Agent} {a : Agent} :
    a ∈ firstEntries [] (pool.filter p) ↔ ∃ before after, pool = before ++ a :: after ∧
      p a = true ∧ ∀ b ∈ before, p b = true → b.userId ≠ a.userId := by
  rw [mem_firstEntries_iff]
  constructor
  · rintro ⟨-, early, late, hsplit, hne⟩
    -- the split of what passes comes from a split of the pool
    obtain ⟨front, back, rfl, hearly, hback⟩ := List.filter_eq_append_iff.mp hsplit
    obtain ⟨skipped, after, rfl, hskipped, ha, -⟩ := List.filter_eq_cons_iff.mp hback
    refine ⟨front ++ skipped, after, (List.append_assoc _ _ _).symm, ha, fun b hb hp => ?_⟩
    rcases List.mem_append.mp hb with hb | hb
    · refine hne b ?_
      rw [← hearly]
      exact List.mem_filter.mpr ⟨hb, hp⟩
    · exact absurd hp (hskipped b hb)
  · rintro ⟨before, after, rfl, ha, hne⟩
    refine ⟨List.not_mem_nil, before.filter p, after.filter p, ?_, fun b hb => ?_⟩
    · rw [List.filter_append, List.filter_cons_of_pos ha]
    · obtain ⟨hm, hp⟩ := List.mem_filter.mp hb
      exact hne b hm hp

/-- **The pool of a rule holds the entries that are taken.** -/
theorem mem_poolOf_iff {targets : List Target} {pool : List Agent} {a : Agent} :
    a ∈ poolOf targets pool ↔ Taken targets pool a := by
  unfold poolOf Taken Wanted
  rw [mem_firstEntries_filter_iff]
  simp only [List.any_eq_true]

/-! ## 2. The ranking of a pool -/

namespace LeadRequest

/-- The scores are those of the agents that are ready, in the order of the pool. -/
theorem scores_eq_map (r : LeadRequest) :
    r.scores = (r.agents.filter Agent.ready).map (Agent.scored r.effectivePolicy r.importance) := by
  unfold scores
  induction r.agents with
  | nil => rfl
  | cons a rest ih =>
      rw [List.filterMap_cons, ih]
      unfold Agent.score?
      by_cases ha : a.ready = true
      · rw [if_pos ha, List.filter_cons_of_pos ha, List.map_cons]
      · rw [if_neg ha, List.filter_cons_of_neg ha]

/-- **The ranking holds the scores of the ready entries that reach the floor.** -/
theorem mem_ranking_iff {r : LeadRequest} {x : ScoredAgent} :
    x ∈ r.ranking ↔ ∃ a ∈ r.agents, a.ready = true ∧
      x = a.scored r.effectivePolicy r.importance ∧ r.admits x = true := by
  rw [mem_ranking, r.scores_eq_map, List.mem_map]
  constructor
  · rintro ⟨⟨a, ha, rfl⟩, hfloor⟩
    obtain ⟨hm, hready⟩ := List.mem_filter.mp ha
    exact ⟨a, hm, hready, rfl, hfloor⟩
  · rintro ⟨a, hm, hready, rfl, hfloor⟩
    exact ⟨⟨a, List.mem_filter.mpr ⟨hm, hready⟩, rfl⟩, hfloor⟩

/-- **A pool without repeated ids is ranked without repeated ids.** -/
theorem nodup_ranking {r : LeadRequest} (h : (r.agents.map Agent.userId).Nodup) :
    (r.ranking.map ScoredAgent.userId).Nodup := by
  have hscores : (r.scores.map ScoredAgent.userId).Nodup := by
    rw [r.scores_eq_map, List.map_map]
    exact (List.filter_sublist.map Agent.userId).nodup h
  rw [(r.ranking_perm.map ScoredAgent.userId).nodup_iff]
  exact (List.filter_sublist.map ScoredAgent.userId).nodup hscores

end LeadRequest

/-! ## 3. Routed decisions -/

/-- **What a selection owes to a request and the rule that it is carried out by**: the scores of the
    taken, ready entries that reach the floor, each id once, and the data of the request. -/
structure Router.Selects [Zones] {σ : Type} (router : Router σ) (rule : Rule) (r : LeadRequest)
    (sel : Selection) : Prop where
  nodup : (sel.agents.map ScoredAgent.userId).Nodup
  mem_iff : ∀ x, x ∈ sel.agents ↔ ∃ a, Taken rule.targets r.agents a ∧
    a.consentReady = true ∧ a.numberReady = true ∧
    x = a.scored (router.policyFor rule r) r.importance ∧
    Number.le (router.policyFor rule r).floor x.score = true
  usedFallback_iff : sel.usedFallback = true ↔ sel.agents = []
  fallbackTeamId_eq : sel.fallbackTeamId = rule.fallbackTeamId.or r.fallbackTeamId
  leadId_eq : sel.leadId = r.leadId
  tenantId_eq : sel.tenantId = r.tenantId
  quietHours_eq : sel.quietHours = r.quietHours

theorem Router.select_selects [Zones] {σ : Type} (router : Router σ) (rule : Rule) (r : LeadRequest)
    (s : σ) : router.Selects rule r (router.select rule (router.narrowed rule r) s).1 := by
  obtain ⟨out, hperm, hsel⟩ := router.select_perm rule (router.narrowed rule r) s
  rw [hsel]
  refine ⟨?_, fun x => ?_, ?_, rfl, rfl, rfl, rfl⟩
  · rw [Selection.of_agents, (hperm.map ScoredAgent.userId).nodup_iff]
    exact LeadRequest.nodup_ranking (router.nodup_narrowed rule r)
  · rw [Selection.of_agents, hperm.mem_iff, LeadRequest.mem_ranking_iff]
    unfold LeadRequest.admits Agent.ready
    rw [narrowed_effectivePolicy, narrowed_agents, narrowed_importance]
    constructor
    · rintro ⟨a, ha, hready, hx, hfloor⟩
      obtain ⟨hconsent, hnumber⟩ := Bool.and_eq_true_iff.mp hready
      exact ⟨a, mem_poolOf_iff.mp ha, hconsent, hnumber, hx, hfloor⟩
    · rintro ⟨a, ha, hconsent, hnumber, hx, hfloor⟩
      exact ⟨a, mem_poolOf_iff.mpr ha, Bool.and_eq_true_iff.mpr ⟨hconsent, hnumber⟩, hx, hfloor⟩
  · rw [Selection.of_usedFallback, Selection.of_agents, List.isEmpty_iff]

/-- **Who a routed decision selects.** The rule behind it is the first one that matches. Nothing is
    asked of the request -- ids may be repeated and nothing was checked -- and nothing of the
    rotation. -/
theorem Router.routed_selects [Zones] {σ : Type} {router : Router σ} {rules : RuleSet}
    {ctx : Context} {r : LeadRequest} {s : σ} {id : String} {ev : Evaluation} {sel : Selection}
    (h : (router.route rules ctx r s).1 = .routed id ev sel) :
    ∃ rule, firstMatch? rules ctx = some rule ∧ rule.id = id ∧ router.Selects rule r sel := by
  obtain ⟨rule, hmatch, -, hid, -, rfl⟩ := routed_cases h
  exact ⟨rule, hmatch, hid, router.select_selects rule r s⟩

/-- Of two entries of one id the first counts though the second would rank better, an agent without
    consent and one below the floor are left out, and a rotation that names a stranger changes
    nothing. -/
theorem Router.routed_selects_first_entry :
    let ann := Example.agent "ann" 2 none
    let dora := Example.agent "dora" 2 (some 1)
    let r := Example.request [ann, dora, Example.agent "ann" 0 none,
      { Example.agent "bob" 0 none with consentReady := false }, Example.agent "cleo" 9 none]
    let router : Router (List Offer) := ⟨.standard, some (.fixed (some "zoe"))⟩
    let policy := { Policy.standard with floor := 0.4 }
    let sel := Selection.of (router.narrowed Example.rule r)
      [ann.scored policy r.importance, dora.scored policy r.importance]
    (router.route Example.rules Example.context r []).1 = .routed "east" (.ofChecks []) sel ∧
      ∃ rule, firstMatch? Example.rules Example.context = some rule ∧ rule.id = "east" ∧
        router.Selects rule r sel := by
  intro ann dora r router policy sel
  have hrank : (router.narrowed Example.rule r).ranking =
      [ann.scored policy r.importance, dora.scored policy r.importance] := by
    rw [LeadRequest.ranking_of_pairwise (by decide +kernel)]
    decide +kernel
  have hroute : (router.route Example.rules Example.context r []).1 =
      .routed "east" (.ofChecks []) sel := by
    rw [route_of_firstMatch Example.firstMatch?_rules, decideBy_of_agents rfl,
      select_of_rotatingTeam rfl rfl]
    unfold LeadRequest.routeWith
    rw [hrank]
    decide +kernel
  exact ⟨hroute, routed_selects hroute⟩

end LeadRouting
