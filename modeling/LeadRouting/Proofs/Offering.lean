import LeadRouting.Proofs.Admission

/-!
# What a rotation is asked

A rotation is asked only through its `answer`. `Rotation.recorded` is the rotation that answers as
another one does and keeps what it is offered, so that what a request asks can be read off its
state. This file says, for every rotation, when it is asked and what it is offered.

* `Consulted r teamId offers` -- the SPECIFICATION of the offers of a request: at most one, exactly
  where somebody ties with the first agent of the ranking, holding all who do and nobody else, each
  once, in the order of the rotation;
* `Agent.turnsAhead` -- that order, said of two agents: those with a place first, ascending by it,
  then the others; ascending by id inside;
* **`routeWith_consults`** -- on a pool without repeated ids every rotation is consulted so, and the
  record changes neither the selection nor what the rotation remembers;
* `Router.recorded` -- the router with such a record; `Router.route_recorded` says that it decides
  as the router does.
-/

namespace LeadRouting

/-! ## 1. The record of a rotation -/

/-- The rotation that answers as another one does and keeps what it is offered. -/
def Rotation.recorded {σ : Type} (rot : Rotation σ) : Rotation (σ × List Offer) where
  answer s o := ((rot.answer s.1 o).1, (rot.answer s.1 o).2, s.2 ++ [o])

/-- What the rotation of a team is asked about a ranking: nothing where fewer than two tie. -/
def offersFor (teamId : String) (pool : List Agent) (ranked : List ScoredAgent) : List Offer :=
  if (leaders ranked).length < 2 then [] else [.of teamId pool (leaders ranked)]

/-- **A record changes nothing** but that it grows by what is offered. -/
theorem arrange_recorded {σ : Type} (rot : Rotation σ) (teamId : String) (pool : List Agent)
    (ranked : List ScoredAgent) (s : σ) (seen : List Offer) :
    rot.recorded.arrange teamId pool ranked (s, seen) =
      ((rot.arrange teamId pool ranked s).1, (rot.arrange teamId pool ranked s).2,
        seen ++ offersFor teamId pool ranked) := by
  unfold Rotation.arrange offersFor
  by_cases hk : (leaders ranked).length < 2
  · rw [if_pos hk, if_pos hk, if_pos hk, List.append_nil]
  · rw [if_neg hk, if_neg hk, if_neg hk]
    rfl

theorem mem_offersFor_iff {teamId : String} {pool : List Agent} {ranked : List ScoredAgent}
    {o : Offer} : o ∈ offersFor teamId pool ranked ↔
      2 ≤ (leaders ranked).length ∧ o = .of teamId pool (leaders ranked) := by
  unfold offersFor
  by_cases hk : (leaders ranked).length < 2
  · rw [if_pos hk]
    constructor
    · intro ho
      cases ho
    · rintro ⟨hk', -⟩
      omega
  · rw [if_neg hk, List.mem_singleton]
    constructor
    · intro ho
      exact ⟨by omega, ho⟩
    · exact fun ho => ho.2

/-! ## 2. Who is offered -/

/-- The agents that tie with the first one are two at least where somebody behind it does. -/
theorem two_le_filter_ties_iff {first : ScoredAgent} {rest : List ScoredAgent} :
    2 ≤ ((first :: rest).filter fun a => a.ties first).length ↔
      ∃ head tail, first :: rest = head :: tail ∧ ∃ a ∈ tail, a.ties head = true := by
  rw [filter_ties_cons, List.length_cons]
  constructor
  · intro hlen
    obtain ⟨a, ha⟩ : ∃ a, a ∈ rest.filter fun a => a.ties first :=
      List.exists_mem_of_length_pos (by omega)
    obtain ⟨hm, ht⟩ := List.mem_filter.mp ha
    exact ⟨first, rest, rfl, a, hm, ht⟩
  · rintro ⟨head, tail, hsplit, a, hm, ht⟩
    obtain ⟨rfl, rfl⟩ := List.cons.inj hsplit
    have hpos : 0 < (rest.filter fun a => a.ties first).length :=
      List.length_pos_of_mem (List.mem_filter.mpr ⟨hm, ht⟩)
    omega

section Ranked

variable {ranked : List ScoredAgent}

/-- **Where the ranking is in order, those who are offered are all who tie with the first one.** -/
theorem mem_leaders_iff (h : ranked.Pairwise fun a b => a.rankKey ≤ b.rankKey)
    {a : ScoredAgent} :
    a ∈ leaders ranked ↔ ∃ first, ranked.head? = some first ∧ a ∈ ranked ∧
      a.ties first = true := by
  cases ranked with
  | nil => simp [leaders]
  | cons first rest =>
      rw [leaders_eq_filter h, List.mem_filter]
      constructor
      · rintro ⟨hm, ht⟩
        exact ⟨first, rfl, hm, ht⟩
      · rintro ⟨b, hb, hm, ht⟩
        obtain rfl : first = b := Option.some.inj hb
        exact ⟨hm, ht⟩

/-- There are two to choose from exactly where somebody else ties with the first one. -/
theorem two_le_leaders_iff (h : ranked.Pairwise fun a b => a.rankKey ≤ b.rankKey) :
    2 ≤ (leaders ranked).length ↔
      ∃ first rest, ranked = first :: rest ∧ ∃ a ∈ rest, a.ties first = true := by
  cases ranked with
  | nil => simp [leaders]
  | cons first rest => rw [leaders_eq_filter h, two_le_filter_ties_iff]

end Ranked

/-! ## 3. In which order -/

/-- **In a rotation the one agent comes before the other**: those with a place come first, ascending
    by it, and then the others; inside, ascending by id. -/
def Agent.turnsAhead (a b : Agent) : Prop :=
  match a.rotationOrder, b.rotationOrder with
  | some x, some y => x < y ∨ x = y ∧ a.userId < b.userId
  | some _, none => True
  | none, some _ => False
  | none, none => a.userId < b.userId

/-- Where no key is repeated, an entry is all that has its key. -/
theorem filter_eq_singleton_of_nodup {α β : Type} [DecidableEq β] {f : α → β} {l : List α} {a : α}
    (h : (l.map f).Nodup) (ha : a ∈ l) : l.filter (fun b => f b = f a) = [a] := by
  refine List.perm_singleton.mp ?_
  refine (List.perm_ext_iff_of_nodup (h.of_map.filter _) (List.nodup_singleton a)).mpr fun b => ?_
  rw [List.mem_filter, List.mem_singleton, decide_eq_true_eq]
  constructor
  · rintro ⟨hb, hkey⟩
    exact List.inj_on_of_nodup_map h hb ha hkey
  · rintro rfl
    exact ⟨ha, rfl⟩

/-- An entry is the first one with its id where no id is repeated. -/
theorem find?_eq_some_of_nodup {α β : Type} [DecidableEq β] {f : α → β} {l : List α} {a : α}
    (h : (l.map f).Nodup) (ha : a ∈ l) : l.find? (fun b => f b = f a) = some a := by
  rw [← List.head?_filter, filter_eq_singleton_of_nodup h ha, List.head?_cons]

/-- **Where no id is repeated the place of an id is that of its agent.** -/
theorem rotationOrder?_of_nodup {pool : List Agent} (h : (pool.map Agent.userId).Nodup)
    {a : Agent} (ha : a ∈ pool) : rotationOrder? pool a.userId = a.rotationOrder := by
  have hrev : (pool.reverse.map Agent.userId).Nodup :=
    ((List.reverse_perm pool).map Agent.userId).nodup_iff.mpr h
  unfold rotationOrder?
  rw [find?_eq_some_of_nodup hrev (List.mem_reverse.mpr ha), Option.bind_some]

theorem turnsAhead_of_turnKey {pool : List Agent} (h : (pool.map Agent.userId).Nodup)
    {a b : Agent} (ha : a ∈ pool) (hb : b ∈ pool) (hne : a.userId ≠ b.userId)
    (hle : turnKey pool a.userId ≤ turnKey pool b.userId) : a.turnsAhead b := by
  unfold turnKey at hle
  rw [rotationOrder?_of_nodup h ha, rotationOrder?_of_nodup h hb] at hle
  unfold Agent.turnsAhead
  cases hx : a.rotationOrder with
  | none =>
      cases hy : b.rotationOrder with
      | none =>
          simp only [hx, hy, Prod.Lex.toLex_le_toLex, lt_irrefl, false_or, true_and] at hle
          exact lt_of_le_of_ne hle hne
      | some y =>
          have hbehind : (true : Bool) < false := by
            simpa [hx, hy, Prod.Lex.toLex_le_toLex] using hle
          exact absurd hbehind (by decide)
  | some x =>
      cases hy : b.rotationOrder with
      | none => trivial
      | some y =>
          simp only [hx, hy, Prod.Lex.toLex_le_toLex, lt_irrefl, false_or, true_and] at hle
          rcases hle with hlt | ⟨heq, hid⟩
          · exact Or.inl (UInt32.lt_iff_toNat_lt.mpr hlt)
          · exact Or.inr ⟨UInt32.toNat_inj.mp heq, lt_of_le_of_ne hid hne⟩

/-- Keys that all stand for an entry are the keys of a list of entries. -/
theorem exists_map_eq {α β : Type} {f : α → β} {P : α → Prop} {keys : List β}
    (h : ∀ k ∈ keys, ∃ a, P a ∧ f a = k) : ∃ xs : List α, keys = xs.map f ∧ ∀ a ∈ xs, P a := by
  induction keys with
  | nil => exact ⟨[], rfl, fun _ ha => by cases ha⟩
  | cons k rest ih =>
      obtain ⟨a, ha, rfl⟩ := h k List.mem_cons_self
      obtain ⟨xs, rfl, hxs⟩ := ih fun j hj => h j (List.mem_cons_of_mem _ hj)
      refine ⟨a :: xs, rfl, fun b hb => ?_⟩
      rcases List.mem_cons.mp hb with rfl | hb
      · exact ha
      · exact hxs b hb

/-! ## 4. When and what -/

/-- **What a request asks the rotation of a team.** -/
structure Consulted (r : LeadRequest) (teamId : String) (offers : List Offer) : Prop where
  length_le : offers.length ≤ 1
  asked_iff : offers ≠ [] ↔
    ∃ first rest, r.ranking = first :: rest ∧ ∃ a ∈ rest, a.ties first = true
  teamId_eq : ∀ o ∈ offers, o.teamId = teamId
  nodup : ∀ o ∈ offers, o.tied.Nodup
  mem_iff : ∀ o ∈ offers, ∀ id, id ∈ o.tied ↔
    ∃ first a, r.ranking.head? = some first ∧ a ∈ r.ranking ∧ a.ties first = true ∧
      a.userId = id
  ordered : ∀ o ∈ offers, ∃ agents : List Agent, o.tied = agents.map Agent.userId ∧
    (∀ a ∈ agents, a ∈ r.agents) ∧ agents.Pairwise Agent.turnsAhead

namespace LeadRequest

variable {r : LeadRequest}

/-- What is offered holds the ids of all who tie with the first agent and of nobody else. -/
theorem mem_offered_iff (teamId : String) (id : String) :
    id ∈ (Offer.of teamId r.agents (leaders r.ranking)).tied ↔
      ∃ first a, r.ranking.head? = some first ∧ a ∈ r.ranking ∧ a.ties first = true ∧
        a.userId = id := by
  rw [(Offer.of_perm teamId r.agents (leaders r.ranking)).mem_iff, List.mem_map]
  constructor
  · rintro ⟨a, ha, hid⟩
    obtain ⟨first, hfirst, hm, ht⟩ := (mem_leaders_iff r.ranking_pairwise).mp ha
    exact ⟨first, a, hfirst, hm, ht, hid⟩
  · rintro ⟨first, a, hfirst, hm, ht, hid⟩
    exact ⟨a, (mem_leaders_iff r.ranking_pairwise).mpr ⟨first, hfirst, hm, ht⟩, hid⟩

theorem nodup_leaders (h : (r.agents.map Agent.userId).Nodup) :
    ((leaders r.ranking).map ScoredAgent.userId).Nodup := by
  have hfront : (leaders r.ranking).Sublist r.ranking := by
    rw [leaders_eq_take]
    exact List.take_sublist _ _
  exact (hfront.map ScoredAgent.userId).nodup (nodup_ranking h)

theorem nodup_offered (h : (r.agents.map Agent.userId).Nodup) (teamId : String) :
    (Offer.of teamId r.agents (leaders r.ranking)).tied.Nodup :=
  (Offer.of_perm teamId r.agents (leaders r.ranking)).nodup_iff.mpr (nodup_leaders h)

/-- **What is offered are the ids of agents of the pool in the order of the rotation.** -/
theorem offered_ordered (h : (r.agents.map Agent.userId).Nodup) (teamId : String) :
    ∃ agents : List Agent,
      (Offer.of teamId r.agents (leaders r.ranking)).tied = agents.map Agent.userId ∧
      (∀ a ∈ agents, a ∈ r.agents) ∧ agents.Pairwise Agent.turnsAhead := by
  have hentry : ∀ id ∈ (Offer.of teamId r.agents (leaders r.ranking)).tied,
      ∃ a, a ∈ r.agents ∧ a.userId = id := by
    intro id hid
    obtain ⟨-, x, -, hx, -, rfl⟩ := (mem_offered_iff teamId id).mp hid
    obtain ⟨a, ha, -, rfl, -⟩ := mem_ranking_iff.mp hx
    exact ⟨a, ha, rfl⟩
  obtain ⟨agents, hids, hagents⟩ := exists_map_eq hentry
  refine ⟨agents, hids, hagents, ?_⟩
  have hsorted := Offer.of_pairwise teamId r.agents (leaders r.ranking)
  have hnodup := nodup_offered h teamId
  rw [hids] at hsorted hnodup
  -- in order and never equal: of two agents the earlier one is strictly ahead
  refine List.Pairwise.imp_of_mem ?_
    ((List.pairwise_map.mp hsorted).and (List.pairwise_map.mp hnodup))
  rintro a b ha hb ⟨hle, hne⟩
  exact turnsAhead_of_turnKey h (hagents a ha) (hagents b hb) hne hle

theorem consulted_offersFor (h : (r.agents.map Agent.userId).Nodup) (teamId : String) :
    Consulted r teamId (offersFor teamId r.agents r.ranking) where
  length_le := by
    unfold offersFor
    split
    · exact Nat.zero_le 1
    · exact Nat.le_refl 1
  asked_iff := by
    rw [← two_le_leaders_iff r.ranking_pairwise]
    unfold offersFor
    split
    · rename_i hk
      exact iff_of_false (fun hne => hne rfl) (by omega)
    · rename_i hk
      exact iff_of_true (List.cons_ne_nil _ _) (by omega)
  teamId_eq := by
    intro o ho
    obtain ⟨-, rfl⟩ := mem_offersFor_iff.mp ho
    rfl
  nodup := by
    intro o ho
    obtain ⟨-, rfl⟩ := mem_offersFor_iff.mp ho
    exact nodup_offered h teamId
  mem_iff := by
    intro o ho
    obtain ⟨-, rfl⟩ := mem_offersFor_iff.mp ho
    exact mem_offered_iff teamId
  ordered := by
    intro o ho
    obtain ⟨-, rfl⟩ := mem_offersFor_iff.mp ho
    exact offered_ordered h teamId

/-- **How every rotation is consulted.** On a pool without repeated ids the record of a rotation
    holds what `Consulted` says, and keeping it changes neither the selection nor what the rotation
    remembers. -/
theorem routeWith_consults {σ : Type} (h : (r.agents.map Agent.userId).Nodup) (rot : Rotation σ)
    (teamId : String) (s : σ) :
    ∃ offers, Consulted r teamId offers ∧
      r.routeWith rot.recorded teamId (s, []) =
        ((r.routeWith rot teamId s).1, (r.routeWith rot teamId s).2, offers) := by
  refine ⟨offersFor teamId r.agents r.ranking, consulted_offersFor h teamId, ?_⟩
  unfold routeWith
  rw [arrange_recorded, List.nil_append]

/-- Three agents tie and are offered by their places, not as they are ranked; the fourth has the
    first place of all and is not offered. -/
theorem routeWith_consults_three :
    let r := Example.request [Example.agent "ann" 2 (some 3), Example.agent "bob" 2 (some 1),
      Example.agent "cleo" 2 none, Example.agent "dan" 5 (some 0)]
    (r.agents.map Agent.userId).Nodup ∧
      offersFor "east" r.agents r.ranking = [⟨"east", ["bob", "ann", "cleo"]⟩] ∧
      ∃ offers, Consulted r "east" offers ∧
        r.routeWith Turns.rotation.recorded "east" (.empty, []) =
          ((r.routeWith Turns.rotation "east" .empty).1,
            (r.routeWith Turns.rotation "east" .empty).2, offers) := by
  intro r
  have hnodup : (r.agents.map Agent.userId).Nodup := by decide
  refine ⟨hnodup, ?_, routeWith_consults hnodup Turns.rotation "east" .empty⟩
  have hrank : r.ranking = r.scores.filter r.admits :=
    ranking_of_pairwise (by decide +kernel)
  have hids : (leaders (r.scores.filter r.admits)).map ScoredAgent.userId =
      ["ann", "bob", "cleo"] := by decide +kernel
  have hturns : ["ann", "bob", "cleo"].mergeSort (turnsBefore r.agents) =
      ["bob", "ann", "cleo"] := by
    have hann : turnsBefore r.agents "ann" "bob" = false := by decide +kernel
    have hbob : turnsBefore r.agents "bob" "cleo" = true := by decide +kernel
    have hcleo : turnsBefore r.agents "ann" "cleo" = true := by decide +kernel
    simp [List.mergeSort, hann, hbob, hcleo]
  rw [hrank, offersFor, if_neg (by decide +kernel), Offer.of, hids, hturns]

end LeadRequest

/-! ## 5. The record of a router -/

namespace Router

variable [Zones] {σ : Type}

/-- The router whose rotation keeps what it is offered. -/
def recorded (router : Router σ) : Router (σ × List Offer) :=
  ⟨router.policy, router.rotation.map Rotation.recorded⟩

theorem select_recorded (router : Router σ) (rule : Rule) (r : LeadRequest) :
    ∃ offers, ∀ s seen, router.recorded.select rule r (s, seen) =
      ((router.select rule r s).1, (router.select rule r s).2, seen ++ offers) := by
  cases hteam : rule.rotatingTeam? with
  | none =>
      refine ⟨[], fun s seen => ?_⟩
      rw [select_of_no_team hteam, select_of_no_team hteam, List.append_nil]
  | some team =>
      cases hrot : router.rotation with
      | none =>
          have hnone : router.recorded.rotation = none := by
            rw [recorded, hrot, Option.map_none]
          refine ⟨[], fun s seen => ?_⟩
          rw [select_of_no_rotation hrot, select_of_no_rotation hnone, List.append_nil]
      | some rotation =>
          have hsome : router.recorded.rotation = some rotation.recorded := by
            rw [recorded, hrot, Option.map_some]
          refine ⟨offersFor team r.agents r.ranking, fun s seen => ?_⟩
          rw [select_of_rotatingTeam hrot hteam, select_of_rotatingTeam hsome hteam]
          unfold LeadRequest.routeWith
          rw [arrange_recorded]

/-- **A router decides with a record as it does without one**, remembers the same, and the record
    grows by what its rotation is offered on the lead. -/
theorem route_recorded (router : Router σ) (rules : RuleSet) (ctx : Context) (r : LeadRequest) :
    ∃ offers, ∀ s seen, router.recorded.route rules ctx r (s, seen) =
      ((router.route rules ctx r s).1, (router.route rules ctx r s).2, seen ++ offers) := by
  cases hmatch : firstMatch? rules ctx with
  | none =>
      refine ⟨[], fun s seen => ?_⟩
      rw [route_of_none hmatch, route_of_none hmatch, List.append_nil]
  | some rule =>
      cases hpond : rule.pond? with
      | some id =>
          refine ⟨[], fun s seen => ?_⟩
          rw [route_of_firstMatch hmatch, route_of_firstMatch hmatch, decideBy_of_pond hpond,
            decideBy_of_pond hpond, List.append_nil]
      | none =>
          obtain ⟨offers, hselect⟩ := select_recorded router rule (router.narrowed rule r)
          refine ⟨offers, fun s seen => ?_⟩
          have hsame : router.recorded.narrowed rule r = router.narrowed rule r := rfl
          rw [route_of_firstMatch hmatch, route_of_firstMatch hmatch, decideBy_of_agents hpond,
            decideBy_of_agents hpond, hsame, hselect]

end Router

end LeadRouting
