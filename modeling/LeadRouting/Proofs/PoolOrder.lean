import LeadRouting.Proofs.Offering

/-!
# The order of the pool

A pool is listed in some order. Where no id is repeated that order is nothing to a router: this
file follows a permutation of the pool through every stage of routing.

* `ranking_of_perm` -- the ranking is the same LIST, since its keys tell the agents apart;
* `rotationOrder?_of_perm`, `Offer.of_pool_perm` -- so is what a rotation is offered;
* `poolOf_perm` -- the pool of a rule is permuted only, for its targets find every agent once;
* `Router.select_of_perm`, `Router.decideBy_of_perm` -- so the selection and the decision of a rule
  are the same;
* **`route_eq_of_pool_perm`** -- every router and every rotation does the same on both pools, asks
  the same and remembers the same.
-/

namespace LeadRouting

/-! ## 1. The ranking -/

theorem ScoredAgent.userId_eq_of_rankKey {a b : ScoredAgent} (h : a.rankKey = b.rankKey) :
    a.userId = b.userId := by
  unfold rankKey at h
  have hinner := congrArg Prod.snd (toLex_inj.mp h)
  exact congrArg Prod.snd (toLex_inj.mp hinner)

section Permuted

variable {r : LeadRequest} {pool : List Agent}

namespace LeadRequest

theorem scores_perm (hperm : pool.Perm r.agents) :
    ({ r with agents := pool } : LeadRequest).scores.Perm r.scores :=
  hperm.filterMap (Agent.score? r.effectivePolicy r.importance)

/-- **The ranking of a permuted pool is the ranking of the pool.** -/
theorem ranking_of_perm (h : (r.agents.map Agent.userId).Nodup) (hperm : pool.Perm r.agents) :
    ({ r with agents := pool } : LeadRequest).ranking = r.ranking := by
  have hids : ((r.scores.filter r.admits).map ScoredAgent.userId).Nodup :=
    (r.ranking_perm.map ScoredAgent.userId).nodup_iff.mp (nodup_ranking h)
  have hkey : ∀ a ∈ r.scores.filter r.admits, ∀ b ∈ r.scores.filter r.admits,
      a.rankKey = b.rankKey → a = b := by
    intro a ha b hb hab
    exact List.inj_on_of_nodup_map hids ha hb (ScoredAgent.userId_eq_of_rankKey hab)
  have hadmitted : (r.scores.filter r.admits).Perm
      (({ r with agents := pool } : LeadRequest).scores.filter r.admits) :=
    (scores_perm hperm).symm.filter r.admits
  exact (mergeSort_eq_of_perm ScoredAgent.ranksBefore_iff_key hkey hadmitted).symm

end LeadRequest

/-! ## 2. What a rotation is offered -/

theorem rotationOrder?_of_not_mem {pool : List Agent} {id : String}
    (h : ∀ a ∈ pool, a.userId ≠ id) : rotationOrder? pool id = none := by
  have hfind : (pool.reverse.find? fun a => a.userId = id) = none := by
    rw [List.find?_eq_none]
    intro a ha hid
    exact h a (List.mem_reverse.mp ha) (of_decide_eq_true hid)
  unfold rotationOrder?
  rw [hfind, Option.bind_none]

/-- **The place of an id in the rotation is not a matter of where its agent is listed.** -/
theorem rotationOrder?_of_perm {other : List Agent} (h : (pool.map Agent.userId).Nodup)
    (hperm : other.Perm pool) (id : String) : rotationOrder? other id = rotationOrder? pool id := by
  have hother : (other.map Agent.userId).Nodup := (hperm.map Agent.userId).nodup_iff.mpr h
  by_cases hid : ∃ a ∈ pool, a.userId = id
  · obtain ⟨a, ha, rfl⟩ := hid
    rw [rotationOrder?_of_nodup h ha, rotationOrder?_of_nodup hother (hperm.mem_iff.mpr ha)]
  · have hnone : ∀ a ∈ pool, a.userId ≠ id := fun a ha e => hid ⟨a, ha, e⟩
    rw [rotationOrder?_of_not_mem hnone,
      rotationOrder?_of_not_mem fun a ha => hnone a (hperm.mem_iff.mp ha)]

theorem Offer.of_pool_perm {other : List Agent} (h : (pool.map Agent.userId).Nodup)
    (hperm : other.Perm pool) (teamId : String) (tied : List ScoredAgent) :
    Offer.of teamId other tied = Offer.of teamId pool tied := by
  have horder : turnsBefore other = turnsBefore pool := by
    funext a b
    unfold turnsBefore
    rw [rotationOrder?_of_perm h hperm, rotationOrder?_of_perm h hperm]
  unfold Offer.of
  rw [horder]

theorem arrange_of_pool_perm {σ : Type} {other : List Agent} (h : (pool.map Agent.userId).Nodup)
    (hperm : other.Perm pool) (rot : Rotation σ) (teamId : String) (ranked : List ScoredAgent)
    (s : σ) : rot.arrange teamId other ranked s = rot.arrange teamId pool ranked s := by
  unfold Rotation.arrange
  simp only [Offer.of_pool_perm h hperm]

namespace LeadRequest

theorem route_of_perm (h : (r.agents.map Agent.userId).Nodup) (hperm : pool.Perm r.agents) :
    ({ r with agents := pool } : LeadRequest).route = r.route := by
  unfold route
  rw [ranking_of_perm h hperm]
  rfl

/-- **A request routed with a rotation does not see the order of its pool.** -/
theorem routeWith_of_perm {σ : Type} (h : (r.agents.map Agent.userId).Nodup)
    (hperm : pool.Perm r.agents) (rot : Rotation σ) (teamId : String) (s : σ) :
    ({ r with agents := pool } : LeadRequest).routeWith rot teamId s = r.routeWith rot teamId s := by
  unfold routeWith
  rw [ranking_of_perm h hperm, arrange_of_pool_perm h hperm]
  rfl

end LeadRequest

/-! ## 3. The pool of a rule -/

/-- Where no id is repeated every entry is the first one of its id. -/
theorem firstEntries_of_nodup {seen : List String} (h : (pool.map Agent.userId).Nodup)
    (hseen : ∀ a ∈ pool, a.userId ∉ seen) : firstEntries seen pool = pool := by
  induction pool generalizing seen with
  | nil => rfl
  | cons a rest ih =>
      rw [List.map_cons, List.nodup_cons] at h
      have ha : ¬ seen.contains a.userId = true := fun hm =>
        hseen a List.mem_cons_self (List.contains_iff_mem.mp hm)
      have hrest : ∀ b ∈ rest, b.userId ∉ a.userId :: seen := by
        intro b hb hm
        rcases List.mem_cons.mp hm with hsame | hm
        · exact h.1 (hsame ▸ List.mem_map_of_mem hb)
        · exact hseen b (List.mem_cons_of_mem _ hb) hm
      unfold firstEntries
      rw [if_neg ha, ih h.2 hrest]

/-- **On a pool without repeated ids the targets of a rule only filter.** -/
theorem poolOf_of_nodup (h : (pool.map Agent.userId).Nodup) (targets : List Target) :
    poolOf targets pool = pool.filter fun a => targets.any fun t => t.includes a := by
  unfold poolOf
  refine firstEntries_of_nodup ((List.filter_sublist.map Agent.userId).nodup h) ?_
  exact fun a _ => List.not_mem_nil

theorem poolOf_perm {other : List Agent} (h : (pool.map Agent.userId).Nodup)
    (hperm : other.Perm pool) (targets : List Target) :
    (poolOf targets other).Perm (poolOf targets pool) := by
  rw [poolOf_of_nodup h, poolOf_of_nodup ((hperm.map Agent.userId).nodup_iff.mpr h)]
  exact hperm.filter _

/-! ## 4. Decisions -/

namespace Router

variable [Zones] {σ : Type}

theorem select_of_perm (h : (r.agents.map Agent.userId).Nodup) (hperm : pool.Perm r.agents)
    (router : Router σ) (rule : Rule) (s : σ) :
    router.select rule { r with agents := pool } s = router.select rule r s := by
  unfold select
  split
  · rename_i team rotation _ _
    exact LeadRequest.routeWith_of_perm h hperm rotation team s
  · rw [LeadRequest.route_of_perm h hperm]

theorem decideBy_of_perm (h : (r.agents.map Agent.userId).Nodup) (hperm : pool.Perm r.agents)
    (router : Router σ) (rule : Rule) (ctx : Context) (s : σ) :
    router.decideBy rule ctx { r with agents := pool } s = router.decideBy rule ctx r s := by
  cases hpond : rule.pond? with
  | some id => rw [decideBy_of_pond hpond, decideBy_of_pond hpond]
  | none =>
      have hselect := select_of_perm (router.nodup_narrowed rule r)
        (poolOf_perm h hperm rule.targets) router rule s
      have hnarrowed : router.narrowed rule { r with agents := pool } =
          { router.narrowed rule r with agents := poolOf rule.targets pool } := rfl
      rw [decideBy_of_agents hpond, decideBy_of_agents hpond, hnarrowed, hselect]

theorem route_of_perm (h : (r.agents.map Agent.userId).Nodup) (hperm : pool.Perm r.agents)
    (router : Router σ) (rules : RuleSet) (ctx : Context) (s : σ) :
    router.route rules ctx { r with agents := pool } s = router.route rules ctx r s := by
  unfold route
  cases firstMatch? rules ctx with
  | none => rfl
  | some rule => exact decideBy_of_perm h hperm router rule ctx s

end Router

/-- **The order of the pool does not matter.** Two requests that differ by a permutation of a pool
    without repeated ids get the same decision from every router, through any rules and whatever its
    rotation is and remembers; the rotation is offered the same and remembers the same then. The
    same holds where the request is routed directly, with a rotation and without one. -/
theorem route_eq_of_pool_perm [Zones] (h : (r.agents.map Agent.userId).Nodup)
    (hperm : pool.Perm r.agents) :
    (∀ (σ : Type) (router : Router σ) (rules : RuleSet) (ctx : Context) (s : σ)
        (offers : List Offer),
      router.route rules ctx { r with agents := pool } s = router.route rules ctx r s ∧
      router.recorded.route rules ctx { r with agents := pool } (s, offers) =
        router.recorded.route rules ctx r (s, offers)) ∧
    ({ r with agents := pool } : LeadRequest).route = r.route ∧
    ∀ (σ : Type) (rot : Rotation σ) (teamId : String) (s : σ) (offers : List Offer),
      ({ r with agents := pool } : LeadRequest).routeWith rot teamId s =
          r.routeWith rot teamId s ∧
        ({ r with agents := pool } : LeadRequest).routeWith rot.recorded teamId (s, offers) =
          r.routeWith rot.recorded teamId (s, offers) := by
  refine ⟨fun σ router rules ctx s offers => ⟨?_, ?_⟩, LeadRequest.route_of_perm h hperm,
    fun σ rot teamId s offers => ⟨?_, ?_⟩⟩
  · exact Router.route_of_perm h hperm router rules ctx s
  · exact Router.route_of_perm h hperm router.recorded rules ctx (s, offers)
  · exact LeadRequest.routeWith_of_perm h hperm rot teamId s
  · exact LeadRequest.routeWith_of_perm h hperm rot.recorded teamId (s, offers)

end Permuted

/-- Two agents tie and a third one stands behind them: listed the other way round the pool gives the
    same agent the turn, and the same is remembered. -/
theorem route_eq_of_pool_perm_reversed :
    let r := Example.request [Example.agent "ann" 2 (some 3), Example.agent "bob" 2 (some 1),
      Example.agent "cleo" 4 none]
    let other := { r with agents := r.agents.reverse }
    let router : Router Turns := ⟨.standard, some Turns.rotation⟩
    (r.agents.map Agent.userId).Nodup ∧ other.agents.Perm r.agents ∧ other.agents ≠ r.agents ∧
      router.route Example.rules Example.context other .empty =
        router.route Example.rules Example.context r .empty ∧
      router.recorded.route Example.rules Example.context other (.empty, []) =
        router.recorded.route Example.rules Example.context r (.empty, []) ∧
      other.route = r.route ∧
      other.routeWith Turns.rotation.recorded "east" (.empty, []) =
        r.routeWith Turns.rotation.recorded "east" (.empty, []) := by
  intro r other router
  have hnodup : (r.agents.map Agent.userId).Nodup := by decide
  have hperm : other.agents.Perm r.agents := List.reverse_perm r.agents
  have hlisted : other.agents ≠ r.agents := by decide
  obtain ⟨hrules, hdirect, hturns⟩ := route_eq_of_pool_perm hnodup hperm
  obtain ⟨hroute, hrecorded⟩ :=
    hrules Turns router Example.rules Example.context .empty []
  exact ⟨hnodup, hperm, hlisted, hroute, hrecorded, hdirect,
    (hturns Turns Turns.rotation "east" .empty []).2⟩

end LeadRouting
