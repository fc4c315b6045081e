import LeadRouting.Proofs.Cycle
import LeadRouting.Proofs.Offering
import LeadRouting.Proofs.Run

/-!
# Turns are fair

One router that takes turns decides on a lead that comes back again and again, with other leads in
between. This file proves that those who tie for the lead take turns in it.

* `turnOrder r` -- those who tie, in the order in which they are offered;
* `DueAt r team t j` -- the INVARIANT: what is remembered of the team makes the agent at place `j`
  of that order the next one; there is such a place at the start of a run (`exists_dueAt`);
* `routeWith_due` -- one turn: the agent that is due comes first and the next one is due;
* `firsts_eq_turnsFrom` -- a run: the first agents go round from the place that is due, through all
  leads that spare the team;
* **`Router.turning_fair`** -- so the turns are fair (`FairTurns`).
-/

namespace LeadRouting

/-! ## 1. The order of the turns -/

/-- Those who tie, in the order of the rotation. -/
def turnOrder (r : LeadRequest) : List ScoredAgent :=
  (leaders r.ranking).mergeSort fun a b => turnsBefore r.agents a.userId b.userId

theorem turnOrder_perm (r : LeadRequest) : (turnOrder r).Perm (leaders r.ranking) :=
  List.mergeSort_perm _ _

/-- What is offered are the ids of those who tie in the order of the turns. -/
theorem offered_eq_turnOrder (r : LeadRequest) (teamId : String) :
    (Offer.of teamId r.agents (leaders r.ranking)).tied =
      (turnOrder r).map ScoredAgent.userId := by
  unfold Offer.of turnOrder
  rw [List.map_mergeSort]
  intro a _ b _
  rfl

theorem nodup_turnOrder {r : LeadRequest} (h : (r.agents.map Agent.userId).Nodup) :
    ((turnOrder r).map ScoredAgent.userId).Nodup :=
  ((turnOrder_perm r).map ScoredAgent.userId).nodup_iff.mpr (LeadRequest.nodup_leaders h)

/-! ## 2. One turn -/

/-- **The agent at place `j` of the order is due**: it follows on what is remembered of the team. -/
def DueAt (r : LeadRequest) (team : String) (t : Turns) (j : Nat) : Prop :=
  Turns.after ((turnOrder r).map ScoredAgent.userId) (t.last team) =
    ((turnOrder r).map ScoredAgent.userId)[j % (turnOrder r).length]?

section Turn

variable {r : LeadRequest} {team : String} {t : Turns} {j : Nat}

/-- Whatever is remembered, somebody is due. -/
theorem exists_dueAt (h : turnOrder r ≠ []) (team : String) (t : Turns) :
    ∃ j, DueAt r team t j := by
  have hids : (turnOrder r).map ScoredAgent.userId ≠ [] := fun e => h (List.map_eq_nil_iff.mp e)
  obtain ⟨j, hj⟩ := Turns.exists_after hids (t.last team)
  rw [List.length_map] at hj
  exact ⟨j, hj⟩

/-- After the turn of the agent at place `j` the one behind it is due. -/
theorem dueAt_record (hids : ((turnOrder r).map ScoredAgent.userId).Nodup) {a : ScoredAgent}
    (ha : (turnOrder r)[j % (turnOrder r).length]? = some a) :
    DueAt r team (t.record team a.userId) (j + 1) := by
  obtain ⟨hlt, hget⟩ := List.getElem?_eq_some_iff.mp ha
  have hlt' : j % (turnOrder r).length < ((turnOrder r).map ScoredAgent.userId).length := by
    rwa [List.length_map]
  have hid : ((turnOrder r).map ScoredAgent.userId)[j % (turnOrder r).length] = a.userId := by
    rw [List.getElem_map, hget]
  have hnext := Turns.after_getElem hids hlt'
  unfold DueAt
  rw [Turns.record_last_self, ← hid, hnext, List.length_map, Nat.mod_add_mod]

/-- **Who comes next in the turns comes first**, and this is what is remembered then. -/
theorem routeWith_of_after {id : String} (hk : 2 ≤ (leaders r.ranking).length)
    (hafter : Turns.after (Offer.of team r.agents (leaders r.ranking)).tied (t.last team) =
      some id) :
    ∃ a ∈ leaders r.ranking, a.userId = id ∧
      (r.routeWith Turns.rotation team t).1.agents.head? = some a ∧
      (r.routeWith Turns.rotation team t).2 = t.record team a.userId := by
  have hanswer : Turns.rotation.answer t (.of team r.agents (leaders r.ranking)) =
      (some id, t.record team id) := Turns.next_of_after hafter
  have htied : ∃ a ∈ r.ranking.take (leaders r.ranking).length, a.userId = id := by
    rw [← leaders_eq_take]
    exact List.mem_map.mp
      ((Offer.of_perm team r.agents (leaders r.ranking)).mem_iff.mp (Turns.mem_of_after hafter))
  have harr := arrange_arranged Turns.rotation team r.agents r.ranking t
  rw [hanswer] at harr
  obtain ⟨a, ha, hhead, hid⟩ := harr.exists_head hk htied
  rw [← leaders_eq_take] at ha
  refine ⟨a, ha, hid, hhead, ?_⟩
  rw [routeWith_state, if_neg (by omega), hanswer, hid]

/-- **One turn: the agent that is due comes first, and the next one is due.** -/
theorem routeWith_due (h : (r.agents.map Agent.userId).Nodup) (hk : 2 ≤ (leaders r.ranking).length)
    (hdue : DueAt r team t j) :
    (r.routeWith Turns.rotation team t).1.agents.head? =
        (turnOrder r)[j % (turnOrder r).length]? ∧
      DueAt r team (r.routeWith Turns.rotation team t).2 (j + 1) := by
  have hlen : (turnOrder r).length = (leaders r.ranking).length := (turnOrder_perm r).length_eq
  have hlt : j % (turnOrder r).length < (turnOrder r).length := Nat.mod_lt _ (by omega)
  obtain ⟨a, ha⟩ : ∃ a, (turnOrder r)[j % (turnOrder r).length]? = some a :=
    ⟨_, List.getElem?_eq_getElem hlt⟩
  have hafter : Turns.after (Offer.of team r.agents (leaders r.ranking)).tied (t.last team) =
      some a.userId := by
    rw [offered_eq_turnOrder]
    unfold DueAt at hdue
    rw [hdue, List.getElem?_map, ha, Option.map_some]
  obtain ⟨b, hb, hid, hhead, hstate⟩ := routeWith_of_after hk hafter
  have hmem : a ∈ leaders r.ranking :=
    (turnOrder_perm r).mem_iff.mp (List.mem_of_getElem? ha)
  have hsame : b = a := List.inj_on_of_nodup_map (LeadRequest.nodup_leaders h) hb hmem hid
  rw [hhead, hstate, ha, hsame]
  exact ⟨rfl, dueAt_record (nodup_turnOrder h) ha⟩

end Turn

/-! ## 3. Who ties for a lead -/

/-- The agents of a list that tie with the first one. -/
def tiedWithFirst : List ScoredAgent → List ScoredAgent
  | [] => []
  | first :: rest => (first :: rest).filter fun a => a.ties first

namespace Decision

/-- The agent that a decision puts first. -/
def first? (d : Decision) : Option ScoredAgent := d.selection?.bind fun s => s.agents.head?

/-- **The selected agents that agree with the first one in score and open leads**, the first one
    counted. -/
def tied (d : Decision) : List ScoredAgent :=
  match d.selection? with
  | some s => tiedWithFirst s.agents
  | none => []

end Decision

/-- **Whatever a rotation answers, the same agents tie with the first one.** -/
theorem Arranged.tiedWithFirst_perm {ranked out : List ScoredAgent} {k : Nat}
    {answer : Option String} (h : Arranged ranked k answer out) (hfront : TiedFront ranked k)
    (hsorted : ranked.Pairwise fun a b => a.rankKey ≤ b.rankKey) :
    (tiedWithFirst out).Perm (leaders ranked) := by
  cases ranked with
  | nil =>
      have hnil : out = [] := h.perm.eq_nil
      subst hnil
      exact .refl _
  | cons first rest =>
      cases out with
      | nil => exact absurd h.perm.length_eq (by simp)
      | cons x others =>
          have hpairs := h.pairs_eq hfront
          rw [List.map_cons, List.map_cons] at hpairs
          obtain ⟨hscore, hleads⟩ := Prod.mk.inj (List.cons.inj hpairs).1
          have hx : x.ties first = true := (x.ties_iff first).mpr ⟨hscore, hleads⟩
          have htest : (fun a : ScoredAgent => a.ties x) = fun a => a.ties first := by
            funext a
            rw [Bool.eq_iff_iff, ScoredAgent.ties_iff_key, ScoredAgent.ties_iff_key,
              (x.ties_iff_key first).mp hx]
          show ((x :: others).filter fun a => a.ties x).Perm _
          rw [leaders_eq_filter hsorted, htest]
          exact h.perm.filter _

/-! ## 4. A lead that comes back -/

namespace Router

section Returning

variable [Zones] {policy : Policy} {lead : Lead} {rule : Rule} {team : String} {t : Turns}

/-- The request that the rule of a lead leaves to select for. -/
def asked (policy : Policy) (lead : Lead) (rule : Rule) : LeadRequest :=
  (turning policy).narrowed rule lead.request

/-- A lead whose rule takes turns in a team is routed with the rotation of the team. -/
theorem handle_of_rotatingTeam (hmatch : firstMatch? lead.rules lead.context = some rule)
    (hpond : rule.pond? = none) (hteam : rule.rotatingTeam? = some team) (t : Turns) :
    (turning policy).handle lead t =
      (.routed rule.id (rule.evaluate lead.context)
          ((asked policy lead rule).routeWith Turns.rotation team t).1,
        ((asked policy lead rule).routeWith Turns.rotation team t).2) := by
  unfold handle
  rw [route_of_firstMatch hmatch, decideBy_of_agents hpond, select_of_rotatingTeam rfl hteam]
  rfl

/-- Where at least one agent is tied the lead is not sent to a pond. -/
theorem pond?_eq_none_of_tied (hmatch : firstMatch? lead.rules lead.context = some rule)
    (h : ((turning policy).handle lead t).1.tied ≠ []) : rule.pond? = none := by
  cases hpond : rule.pond? with
  | none => rfl
  | some id =>
      unfold handle at h
      rw [route_of_firstMatch hmatch, decideBy_of_pond hpond] at h
      exact absurd rfl h

/-- Those who tie for a lead are those who take turns in it. -/
theorem tied_perm_turnOrder (policy : Policy)
    (hmatch : firstMatch? lead.rules lead.context = some rule)
    (hpond : rule.pond? = none) (hteam : rule.rotatingTeam? = some team) (t : Turns) :
    ((turning policy).handle lead t).1.tied.Perm (turnOrder (asked policy lead rule)) := by
  rw [handle_of_rotatingTeam hmatch hpond hteam]
  have harr := arrange_arranged Turns.rotation team (asked policy lead rule).agents
    (asked policy lead rule).ranking t
  exact (harr.tiedWithFirst_perm (tiedFront_leaders _)
    (asked policy lead rule).ranking_pairwise).trans (turnOrder_perm _).symm

/-- **A run: the first agents go round** from the place that is due, through all leads that spare
    the team. -/
theorem firsts_eq_turnsFrom (hmatch : firstMatch? lead.rules lead.context = some rule)
    (hpond : rule.pond? = none) (hteam : rule.rotatingTeam? = some team)
    (hk : 2 ≤ (leaders (asked policy lead rule).ranking).length) {visits : List (Option Lead)}
    (hothers : ∀ other, some other ∈ visits → other.Spares team) {j : Nat}
    (hdue : DueAt (asked policy lead rule) team t j) :
    ((turning policy).returns lead visits t).map Decision.first? =
      turnsFrom (turnOrder (asked policy lead rule)) j (visits.countP Option.isNone) := by
  have hpool : ((asked policy lead rule).agents.map Agent.userId).Nodup :=
    (turning policy).nodup_narrowed rule lead.request
  induction visits generalizing t j with
  | nil => rfl
  | cons visit rest ih =>
      have hrest : ∀ other, some other ∈ rest → other.Spares team :=
        fun other ho => hothers other (List.mem_cons_of_mem _ ho)
      cases visit with
      | none =>
          obtain ⟨hfirst, hnext⟩ := routeWith_due hpool hk hdue
          rw [returns_again, List.map_cons, handle_of_rotatingTeam hmatch hpond hteam,
            ih hrest hnext, List.countP_cons_of_pos rfl, turnsFrom_succ, ← hfirst]
          rfl
      | some other =>
          have hspares : other.Spares team := hothers other List.mem_cons_self
          have hsame : DueAt (asked policy lead rule) team
              ((turning policy).handle other t).2 j := by
            unfold DueAt
            rw [handle_last_of_spares policy hspares]
            exact hdue
          rw [returns_other, ih hrest hsame, List.countP_cons_of_neg (by simp)]

/-- **Turns are fair.** A lead that leaves at least two agents tied comes back any number of times,
    with any leads in between that spare its team, and whatever the rotation remembers of earlier
    turns. -/
theorem turning_fair (hmatch : firstMatch? lead.rules lead.context = some rule)
    (hteam : rule.rotatingTeam? = some team)
    (hties : 2 ≤ ((turning policy).handle lead t).1.tied.length) {visits : List (Option Lead)}
    (hothers : ∀ other, some other ∈ visits → other.Spares team) :
    ((turning policy).returns lead visits t).length = visits.countP Option.isNone ∧
      FairTurns ((turning policy).handle lead t).1.tied
        (((turning policy).returns lead visits t).map Decision.first?) := by
  have hne : ((turning policy).handle lead t).1.tied ≠ [] := by
    intro e
    rw [e] at hties
    exact absurd hties (by decide)
  have hpond : rule.pond? = none := pond?_eq_none_of_tied hmatch hne
  have hpool : ((asked policy lead rule).agents.map Agent.userId).Nodup :=
    nodup_firstEntries [] _
  have hperm := tied_perm_turnOrder policy hmatch hpond hteam t
  have hk : 2 ≤ (leaders (asked policy lead rule).ranking).length := by
    rw [hperm.length_eq, (turnOrder_perm _).length_eq] at hties
    exact hties
  have hsome : turnOrder (asked policy lead rule) ≠ [] := by
    intro e
    rw [e] at hperm
    exact hne hperm.eq_nil
  obtain ⟨j, hdue⟩ := exists_dueAt hsome team t
  have hfirsts := firsts_eq_turnsFrom hmatch hpond hteam hk hothers hdue
  rw [hfirsts]
  refine ⟨?_, fairTurns_turnsFrom hperm hsome (nodup_turnOrder hpool) j _⟩
  have hlen := congrArg List.length hfirsts
  rwa [List.length_map, length_turnsFrom] at hlen

end Returning

/-- Three agents of the eastern team tie and a fourth stands behind them; between their turns come
    leads that the northern team takes turns in. -/
theorem turning_fair_three :
    let lead : Lead := ⟨Example.rules, Example.context, Example.request
      [Example.agent "ann" 2 (some 3), Example.agent "bob" 2 (some 1), Example.agent "cleo" 2 none,
        Example.agent "dan" 4 (some 0)]⟩
    let other : Lead := { lead with
      rules := ⟨[{ Example.rule with targets := [.team "north" .roundRobin] }]⟩ }
    let visits := [none, some other, none, none, some other, none]
    firstMatch? lead.rules lead.context = some Example.rule ∧
      Example.rule.rotatingTeam? = some "east" ∧
      ((turning .standard).handle lead .empty).1.tied.length = 3 ∧
      other.Spares "east" ∧
      ((turning .standard).returns lead visits .empty).length = 4 ∧
      FairTurns ((turning .standard).handle lead .empty).1.tied
        (((turning .standard).returns lead visits .empty).map Decision.first?) := by
  intro lead other visits
  have hmatch : firstMatch? lead.rules lead.context = some Example.rule :=
    Example.firstMatch?_rules
  have hteam : Example.rule.rotatingTeam? = some "east" := rfl
  have hties : ((turning .standard).handle lead .empty).1.tied.length = 3 := by
    rw [(tied_perm_turnOrder .standard hmatch rfl hteam .empty).length_eq,
      (turnOrder_perm _).length_eq, LeadRequest.ranking_of_pairwise (by decide +kernel)]
    decide +kernel
  have hspares : other.Spares "east" := by
    intro rule hrule _ hrot
    have hnorth := firstMatch?_of_unconditional
      { Example.rule with targets := [.team "north" .roundRobin] } Example.context rfl rfl
    obtain rfl := Option.some.inj (hnorth.symm.trans hrule)
    exact absurd hrot (by decide)
  have hothers : ∀ o, some o ∈ visits → o.Spares "east" := by
    intro o ho
    simp only [visits, List.mem_cons, reduceCtorEq, Option.some.injEq, false_or,
      List.not_mem_nil, or_false] at ho
    rcases ho with rfl | rfl
    · exact hspares
    · exact hspares
  exact ⟨hmatch, hteam, hties, hspares, turning_fair hmatch hteam (by omega) hothers⟩

end Router

end LeadRouting
