import LeadRouting.Proofs.Restriction

/-!
# What a ranking is

The ranking of a request is made by scoring, a floor and a sort. This file says what comes out
without saying how it is made, and what a change of the pool or of the floor does to it.

* `Number.Above`, `ScoredAgent.Ahead` -- the order of two scores and of two agents in words, and
  `ahead_iff_key`: it is the order that sorts;
* `LeadRequest.Ranks r out` -- the SPECIFICATION of a ranking: it holds the scores that reach the
  floor, no agent stands in front of one that ranks ahead of it, and agents that agree in everything
  the order asks keep the order of the pool;
* **`ranking_stable`** -- the ranking is one such list and there is no other one; where no id is
  repeated the first two conditions are enough;
* **`ranking_others_unmoved`** -- a change of the pool leaves all others as they are, scores and
  terms included, and in their order;
* `Number.le_of_rank_le` -- what stands above a score that reaches a floor reaches it too, the two
  zeros included;
* **`ranking_cut_by_floor`** -- so a higher floor cuts off the tail of a ranking.
-/

namespace LeadRouting

/-! ## 1. How scores compare -/

namespace Number

/-- **The first value is sorted above the second one**: it has a higher place, or both have one place
    and only the second one has the sign of the negative values. -/
def Above (x y : Float) : Prop :=
  place y < place x ∨ place y = place x ∧ negative y = true ∧ negative x = false

instance (x y : Float) : Decidable (Above x y) := inferInstanceAs (Decidable (_ ∨ _))

theorem above_iff_rank (x y : Float) : Above x y ↔ rank y < rank x := by
  unfold Above rank place
  cases negative x <;> cases negative y <;> simp <;> omega

theorem le_iff (x y : Float) :
    le x y = true ↔ notANumber x = false ∧ notANumber y = false ∧ place x ≤ place y := by
  unfold le place?
  cases notANumber x <;> cases notANumber y <;> simp

/-- **What ranks above a value that reaches a floor reaches it too**, if it is a number. -/
theorem le_of_rank_le {floor x y : Float} (hx : le floor x = true) (hy : notANumber y = false)
    (hrank : rank x ≤ rank y) : le floor y = true := by
  obtain ⟨hfloor, -, hplace⟩ := (le_iff floor x).mp hx
  exact (le_iff floor y).mpr ⟨hfloor, hy, hplace.trans (place_le_of_rank_le hrank)⟩

theorem le_refl {x : Float} (h : notANumber x = false) : le x x = true :=
  (le_iff x x).mpr ⟨h, h, Int.le_refl _⟩

theorem le_trans {x y z : Float} (hxy : le x y = true) (hyz : le y z = true) : le x z = true := by
  obtain ⟨hx, -, hplace⟩ := (le_iff x y).mp hxy
  obtain ⟨-, hz, hplace'⟩ := (le_iff y z).mp hyz
  exact (le_iff x z).mpr ⟨hx, hz, hplace.trans hplace'⟩

end Number

/-! ## 2. How agents compare -/

namespace ScoredAgent

/-- **The first agent ranks ahead of the second one**: by a score above the other's, with the same
    score by fewer open leads, with as many by the smaller id. -/
def Ahead (a b : ScoredAgent) : Prop :=
  Number.Above a.score b.score ∨ a.score = b.score ∧ (a.activePipeline < b.activePipeline ∨
    a.activePipeline = b.activePipeline ∧ a.userId < b.userId)

instance (a b : ScoredAgent) : Decidable (a.Ahead b) := inferInstanceAs (Decidable (_ ∨ _))

/-- The agents agree in everything that the order asks. -/
def level (a b : ScoredAgent) : Bool :=
  a.score = b.score && a.activePipeline = b.activePipeline && a.userId = b.userId

theorem ahead_iff_key (a b : ScoredAgent) : a.Ahead b ↔ a.rankKey < b.rankKey := by
  unfold Ahead rankKey
  rw [Prod.Lex.toLex_lt_toLex, Prod.Lex.toLex_lt_toLex, Number.above_iff_rank]
  simp only [Int.neg_lt_neg_iff, Int.neg_inj, Number.rank_inj, UInt32.lt_iff_toNat_lt,
    UInt32.toNat_inj]

theorem not_ahead_iff_key (a b : ScoredAgent) : ¬ b.Ahead a ↔ a.rankKey ≤ b.rankKey := by
  rw [ahead_iff_key, not_lt]

theorem rank_le_of_rankKey_le {a b : ScoredAgent} (h : a.rankKey ≤ b.rankKey) :
    Number.rank b.score ≤ Number.rank a.score := by
  unfold rankKey at h
  rcases (Prod.Lex.toLex_le_toLex).mp h with hlt | ⟨heq, -⟩
  · omega
  · omega

theorem level_iff_key (a b : ScoredAgent) : a.level b = true ↔ a.rankKey = b.rankKey := by
  unfold level rankKey
  rw [toLex_inj, Prod.mk.injEq, toLex_inj, Prod.mk.injEq]
  simp only [Bool.and_eq_true, decide_eq_true_eq, Int.neg_inj, Number.rank_inj, UInt32.toNat_inj,
    and_assoc]

theorem level_eq_decide_key (a b : ScoredAgent) : a.level b = decide (a.rankKey = b.rankKey) := by
  rw [Bool.eq_iff_iff, level_iff_key, decide_eq_true_eq]

end ScoredAgent

namespace LeadRequest

/-! ## 3. The ranking of a request -/

/-- **What a ranking of the request is.** -/
structure Ranks (r : LeadRequest) (out : List ScoredAgent) : Prop where
  perm : out.Perm (r.scores.filter r.admits)
  ordered : out.Pairwise fun a b => ¬ b.Ahead a
  stable : ∀ a, out.filter (fun b => b.level a) =
    (r.scores.filter r.admits).filter fun b => b.level a

theorem ranks_ranking (r : LeadRequest) : r.Ranks r.ranking where
  perm := r.ranking_perm
  ordered := r.ranking_pairwise.imp fun h => (ScoredAgent.not_ahead_iff_key _ _).mpr h
  stable a := by
    simp only [ScoredAgent.level_eq_decide_key]
    exact filter_key_mergeSort ScoredAgent.ranksBefore_iff_key a.rankKey _

/-- Two rankings of one request are the same list. -/
theorem Ranks.eq {r : LeadRequest} {out other : List ScoredAgent} (h : r.Ranks out)
    (h' : r.Ranks other) : out = other := by
  refine eq_of_filter_key_eq (h.ordered.imp fun hab => (ScoredAgent.not_ahead_iff_key _ _).mp hab)
    (h'.ordered.imp fun hab => (ScoredAgent.not_ahead_iff_key _ _).mp hab) fun a => ?_
  have hsame := (h.stable a).trans (h'.stable a).symm
  simpa only [ScoredAgent.level_eq_decide_key] using hsame

/-- Where no id is repeated a list in order that holds the right scores is the ranking. -/
theorem eq_ranking_of_ordered {r : LeadRequest} (hids : (r.agents.map Agent.userId).Nodup)
    {out : List ScoredAgent} (hperm : out.Perm (r.scores.filter r.admits))
    (hordered : out.Pairwise fun a b => ¬ b.Ahead a) : out = r.ranking := by
  have hranked : out.Perm r.ranking := hperm.trans r.ranking_perm.symm
  refine List.Perm.eq_of_pairwise ?_ (hordered.imp fun h => (ScoredAgent.not_ahead_iff_key _ _).mp h)
    r.ranking_pairwise hranked
  intro a b ha hb hab hba
  have hid : a.userId = b.userId := ScoredAgent.userId_eq_of_rankKey (le_antisymm hab hba)
  exact List.inj_on_of_nodup_map (nodup_ranking hids) (hranked.mem_iff.mp ha) hb hid

/-- A score in the ranking is a number. -/
theorem number_of_mem_ranking {r : LeadRequest} {a : ScoredAgent} (ha : a ∈ r.ranking) :
    Number.notANumber a.score = false :=
  ((Number.le_iff _ _).mp (mem_ranking.mp ha).2).2.1

/-- **The scores of the ranking descend**, by rank. -/
theorem ranking_descends (r : LeadRequest) :
    r.ranking.Pairwise fun a b => Number.rank b.score ≤ Number.rank a.score :=
  r.ranking_pairwise.imp ScoredAgent.rank_le_of_rankKey_le

/-- **The ranking is a stable sort of the scores that reach the floor.** It is the one list that is a
    ranking of the request; its scores descend as numbers too; and where no id is repeated nothing
    but its entries and its order has to be asked of it. -/
theorem ranking_stable (r : LeadRequest) :
    r.Ranks r.ranking ∧ (∀ out, r.Ranks out → out = r.ranking) ∧
    r.ranking.Pairwise (fun a b => Number.le b.score a.score = true) ∧
    ((r.agents.map Agent.userId).Nodup → ∀ out : List ScoredAgent,
      out.Perm (r.scores.filter r.admits) → (out.Pairwise fun a b => ¬ b.Ahead a) →
        out = r.ranking) := by
  refine ⟨r.ranks_ranking, fun out h => h.eq r.ranks_ranking, ?_, fun hids out hperm hordered =>
    eq_ranking_of_ordered hids hperm hordered⟩
  refine List.Pairwise.imp_of_mem ?_ r.ranking_descends
  intro a b ha hb hrank
  exact Number.le_of_rank_le (Number.le_refl (number_of_mem_ranking hb)) (number_of_mem_ranking ha)
    hrank

/-- Without a weight on capacity three agents have one score: the one with fewer open leads comes
    first, and the ids decide between the others. -/
theorem ranking_stable_three :
    let policy := { Policy.standard with capacity := 0.0 }
    let r := { Example.request [Example.agent "cleo" 5 none, Example.agent "bob" 3 none,
      Example.agent "ann" 5 none] with policy := some policy }
    let out := [Example.agent "bob" 3 none, Example.agent "ann" 5 none,
      Example.agent "cleo" 5 none].map (Agent.scored policy r.importance)
    (r.agents.map Agent.userId).Nodup ∧ out.Perm (r.scores.filter r.admits) ∧
      (out.Pairwise fun a b => ¬ b.Ahead a) ∧ out = r.ranking := by
  intro policy r out
  have hids : (r.agents.map Agent.userId).Nodup := by decide
  have hperm : out.Perm (r.scores.filter r.admits) := by decide +kernel
  have hordered : out.Pairwise fun a b => ¬ b.Ahead a := by decide +kernel
  obtain ⟨-, -, -, honly⟩ := ranking_stable r
  exact ⟨hids, hperm, hordered, honly hids out hperm hordered⟩

/-! ## 4. Another pool -/

/-- **Other agents are nothing to an agent's place.** The ranking of the agents of some ids is the
    part of the ranking with these ids; two pools that list the same for some ids are ranked alike
    in these, scores and terms included; and entries that are left out of the pool, of repeated ids
    too, are left out of the ranking, which stays in its order. -/
theorem ranking_others_unmoved (r : LeadRequest) (pool : List Agent) :
    (∀ q : String → Bool,
      ({ r with agents := r.agents.filter fun a => q a.userId } : LeadRequest).ranking =
        r.ranking.filter fun x => q x.userId) ∧
    (∀ q : String → Bool,
      (pool.filter fun a => q a.userId) = (r.agents.filter fun a => q a.userId) →
      (({ r with agents := pool } : LeadRequest).ranking.filter fun x => q x.userId) =
        r.ranking.filter fun x => q x.userId) ∧
    (pool.Sublist r.agents →
      ({ r with agents := pool } : LeadRequest).ranking.Sublist r.ranking) := by
  refine ⟨r.ranking_of_ids, fun q hpool => ?_, fun hsub => ?_⟩
  · have hother := ranking_of_ids { r with agents := pool } q
    simp only [hpool] at hother
    rw [← hother, ← r.ranking_of_ids q]
  · exact mergeSort_sublist_of_key ScoredAgent.ranksBefore_iff_key
      ((hsub.filterMap (Agent.score? r.effectivePolicy r.importance)).filter r.admits)

/-- One agent is listed twice and another one leaves the pool while two come in: the entries of the
    first one are ranked as before. -/
theorem ranking_others_unmoved_changed :
    let ann := Example.agent "ann" 2 none
    let west := { ann with teamId := some "west" }
    let r := Example.request [ann, Example.agent "bob" 1 none, west]
    let pool := [Example.agent "cleo" 0 none, ann, west, Example.agent "dan" 2 none]
    (pool.filter fun a => a.userId = "ann") = (r.agents.filter fun a => a.userId = "ann") ∧
      (({ r with agents := pool } : LeadRequest).ranking.filter fun x => x.userId = "ann") =
        (r.ranking.filter fun x => x.userId = "ann") ∧
      [ann, west].Sublist r.agents ∧
      ({ r with agents := [ann, west] } : LeadRequest).ranking.Sublist r.ranking := by
  intro ann west r pool
  have hpool : (pool.filter fun a => a.userId = "ann") =
      r.agents.filter fun a => a.userId = "ann" := by decide +kernel
  have hsub : [ann, west].Sublist r.agents := by decide +kernel
  obtain ⟨-, hagree, -⟩ := ranking_others_unmoved r pool
  obtain ⟨-, -, hleave⟩ := ranking_others_unmoved r [ann, west]
  exact ⟨hpool, hagree (fun id => id = "ann") hpool, hsub, hleave hsub⟩

/-! ## 5. Another floor -/

/-- The request with another floor. -/
def withFloor (r : LeadRequest) (floor : Float) : LeadRequest :=
  { r with policy := some { r.effectivePolicy with floor := floor } }

theorem admits_withFloor (r : LeadRequest) (floor : Float) (x : ScoredAgent) :
    (r.withFloor floor).admits x = Number.le floor x.score := rfl

/-- The ranking from a higher floor on is what reaches it in the ranking from a lower one on. -/
theorem ranking_withFloor {low high : Float} (h : Number.le low high = true) (r : LeadRequest) :
    (r.withFloor high).ranking =
      (r.withFloor low).ranking.filter fun x => Number.le high x.score := by
  have hboth : (r.scores.filter (r.withFloor low).admits).filter (r.withFloor high).admits =
      r.scores.filter (r.withFloor high).admits := by
    rw [List.filter_filter]
    refine List.filter_congr fun x _ => ?_
    rw [admits_withFloor, admits_withFloor, Bool.eq_iff_iff, Bool.and_eq_true]
    exact ⟨fun hx => hx.1, fun hx => ⟨hx, Number.le_trans h hx⟩⟩
  have hsorted := filter_mergeSort_of_key ScoredAgent.ranksBefore_iff_key (r.withFloor high).admits
    (r.scores.filter (r.withFloor low).admits)
  rw [hboth] at hsorted
  exact hsorted.symm

/-- **A higher floor cuts off the tail of the ranking**: it leaves the front whose scores reach it,
    unchanged. So it falls back wherever the lower one does. -/
theorem ranking_cut_by_floor {low high : Float} (h : Number.le low high = true)
    (r : LeadRequest) :
    (r.withFloor high).ranking =
      (r.withFloor low).ranking.takeWhile (fun x => Number.le high x.score) ∧
    (r.withFloor high).ranking <+: (r.withFloor low).ranking ∧
    ((r.withFloor low).route.usedFallback = true →
      (r.withFloor high).route.usedFallback = true) := by
  have hfront : (r.withFloor low).ranking.Pairwise fun a b =>
      Number.le high b.score = true → Number.le high a.score = true := by
    refine List.Pairwise.imp_of_mem ?_ (r.withFloor low).ranking_descends
    intro a b ha _ hrank hb
    exact Number.le_of_rank_le hb (number_of_mem_ranking ha) hrank
  have hcut : (r.withFloor high).ranking =
      (r.withFloor low).ranking.takeWhile fun x => Number.le high x.score := by
    rw [takeWhile_eq_filter hfront]
    exact ranking_withFloor h r
  have hprefix : (r.withFloor high).ranking <+: (r.withFloor low).ranking :=
    hcut ▸ List.takeWhile_prefix _
  refine ⟨hcut, hprefix, fun hlow => ?_⟩
  have hnone : (r.withFloor low).ranking = [] := List.isEmpty_iff.mp hlow
  rw [hnone] at hprefix
  exact List.isEmpty_iff.mpr (List.prefix_nil.mp hprefix)

/-- A floor of two fifths cuts off the agent that has nine open leads; the two zeros are one
    floor. -/
theorem ranking_cut_by_floor_cleo :
    let ann := Example.agent "ann" 2 none
    let cleo := Example.agent "cleo" 9 none
    let r := Example.request [ann, cleo]
    Number.le 0.0 0.4 = true ∧ Number.le 0.0 (-0.0) = true ∧
      (r.withFloor 0.0).ranking = [ann, cleo].map (Agent.scored .standard r.importance) ∧
      (r.withFloor 0.4).ranking = [ann].map (Agent.scored .standard r.importance) ∧
      (r.withFloor (-0.0)).ranking <+: (r.withFloor 0.0).ranking := by
  intro ann cleo r
  have hfloors : Number.le 0.0 0.4 = true := by decide +kernel
  have hzeros : Number.le 0.0 (-0.0) = true := by decide +kernel
  have hlow : (r.withFloor 0.0).ranking =
      [ann, cleo].map (Agent.scored .standard r.importance) := by
    rw [ranking_of_pairwise (by decide +kernel)]
    decide +kernel
  obtain ⟨hcut, -, -⟩ := ranking_cut_by_floor hfloors r
  obtain ⟨-, hprefix, -⟩ := ranking_cut_by_floor hzeros r
  refine ⟨hfloors, hzeros, hlow, ?_, hprefix⟩
  rw [hcut, hlow]
  decide +kernel

end LeadRequest

end LeadRouting
