import LeadRouting.Proofs.Decision

/-!
# Leads one after another

A router with a rotation decides on leads one after another, each with what the rotation remembers
then. This file says what a run is and what one lead leaves behind in the turns.

* `Lead`, `Router.run` -- a lead as it comes in, and the decisions on many of them;
* `Router.returns` -- the decisions on one lead that comes back, with other leads in between;
* `Lead.Spares` -- the rule that the lead matches takes no turns in a team;
* **`handle_last_of_spares`** -- such a lead leaves the last turn of the team as it is.
-/

namespace LeadRouting

/-! ## 1. Runs -/

/-- A lead as it comes in: the rules it is taken through, what is known of it, and the request. -/
structure Lead [Zones] where
  rules : RuleSet
  context : Context
  request : LeadRequest

namespace Router

variable [Zones] {σ : Type}

/-- The decision on a lead, and what the rotation remembers then. -/
def handle (router : Router σ) (lead : Lead) (s : σ) : Decision × σ :=
  router.route lead.rules lead.context lead.request s

/-- The decisions on leads that come one after another, and what the rotation remembers then. -/
def run (router : Router σ) : List Lead → σ → List Decision × σ
  | [], s => ([], s)
  | lead :: rest, s =>
    let first := router.handle lead s
    let others := router.run rest first.2
    (first.1 :: others.1, others.2)

/-- The decisions on a lead that comes back in a run: where the list names no other lead, it is this
    one that comes. -/
def returns (router : Router σ) (lead : Lead) (visits : List (Option Lead)) (s : σ) :
    List Decision :=
  ((visits.zip (router.run (visits.map fun other => other.getD lead) s).1).filter
    fun visit => visit.1.isNone).map Prod.snd

theorem returns_again (router : Router σ) (lead : Lead) (rest : List (Option Lead)) (s : σ) :
    router.returns lead (none :: rest) s =
      (router.handle lead s).1 :: router.returns lead rest (router.handle lead s).2 := rfl

theorem returns_other (router : Router σ) (lead other : Lead) (rest : List (Option Lead))
    (s : σ) : router.returns lead (some other :: rest) s =
      router.returns lead rest (router.handle other s).2 := rfl

end Router

/-! ## 2. What a lead leaves behind -/

/-- What a rotation remembers after a request: asked or not asked. -/
theorem routeWith_state {σ : Type} (r : LeadRequest) (rot : Rotation σ) (teamId : String) (s : σ) :
    (r.routeWith rot teamId s).2 = if (leaders r.ranking).length < 2 then s
      else (rot.answer s (.of teamId r.agents (leaders r.ranking))).2 := by
  have harrange : (r.routeWith rot teamId s).2 =
      (rot.arrange teamId r.agents r.ranking s).2 := rfl
  rw [harrange]
  unfold Rotation.arrange
  by_cases hk : (leaders r.ranking).length < 2
  · rw [if_pos hk, if_pos hk]
  · rw [if_neg hk, if_neg hk]

namespace Turns

theorem next_of_after {t : Turns} {o : Offer} {id : String}
    (h : after o.tied (t.last o.teamId) = some id) :
    t.next o = (some id, t.record o.teamId id) := by
  unfold next
  rw [h]

/-- The turn of one team is nothing to another one. -/
theorem next_last_of_ne (t : Turns) {o : Offer} {team : String} (h : team ≠ o.teamId) :
    (t.next o).2.last team = t.last team := by
  unfold next
  split
  · exact record_last_of_ne t _ h
  · rfl

theorem routeWith_last_of_ne (r : LeadRequest) (t : Turns) {team other : String}
    (h : team ≠ other) : (r.routeWith rotation other t).2.last team = t.last team := by
  rw [routeWith_state]
  split
  · rfl
  · exact next_last_of_ne t h

end Turns

/-- The router that takes turns. -/
def Router.turning (policy : Policy) : Router Turns := ⟨policy, some Turns.rotation⟩

/-- **The rule that the lead matches takes no turns in the team**: no rule matches, or the one that
    does leads to a pond or takes turns in another team or in none. -/
def Lead.Spares [Zones] (lead : Lead) (team : String) : Prop :=
  ∀ rule, Router.firstMatch? lead.rules lead.context = some rule → rule.pond? = none →
    rule.rotatingTeam? ≠ some team

namespace Router

variable [Zones]

theorem select_last_of_ne (policy : Policy) {rule : Rule} {team : String}
    (h : rule.rotatingTeam? ≠ some team) (r : LeadRequest) (t : Turns) :
    ((turning policy).select rule r t).2.last team = t.last team := by
  cases hteam : rule.rotatingTeam? with
  | none => rw [select_of_no_team hteam]
  | some other =>
      have hne : team ≠ other := by
        intro e
        exact h (e ▸ hteam)
      rw [select_of_rotatingTeam rfl hteam]
      exact Turns.routeWith_last_of_ne r t hne

/-- **A lead that spares a team leaves its last turn as it is.** -/
theorem handle_last_of_spares (policy : Policy) {lead : Lead} {team : String}
    (h : lead.Spares team) (t : Turns) :
    ((turning policy).handle lead t).2.last team = t.last team := by
  unfold handle
  obtain ⟨-, hroute⟩ | ⟨rule, id, -, -, hroute⟩ | ⟨rule, hmatch, hpond, hroute⟩ :=
    route_cases (turning policy) lead.rules lead.context lead.request t
  · rw [hroute]
  · rw [hroute]
  · rw [hroute]
    exact select_last_of_ne policy (h rule hmatch hpond) _ t

end Router

end LeadRouting
