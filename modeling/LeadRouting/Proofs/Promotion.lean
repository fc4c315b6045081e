import Mathlib.Data.List.Nodup
import LeadRouting.Proofs.Order

/-!
# What a rotation does to a ranking

A rotation can answer anything: nothing, one of those who tie, somebody else. This file says what
every answer makes of a ranking, without looking at the rotation.

* `TiedFront ranked k` -- the longest front of the ranking that agrees with its first agent has
  length `k`;
* `Arranged ranked k answer out` -- the RELATION between the ranking, the answer and the outcome,
  one rule for each thing an answer can be;
* its lemmas: **nobody is lost and nobody joins** (`Arranged.perm`), the scores and the open leads
  stay where they are (`Arranged.map_eq`), nobody behind the tie moves (`Arranged.drop_eq`), and
  those who tie keep their order behind the one in front (`Arranged.tail_sublist`);
* `arrange_arranged`: **every rotation arranges a ranking by the answer it gives**, and
  `routeWith_promotes` gathers what that means for the selection of a request.
-/

namespace LeadRouting

/-! ## 1. The front that ties -/

/-- The longest front of a ranking that agrees with its first agent has length `k`. -/
structure TiedFront (ranked : List ScoredAgent) (k : Nat) : Prop where
  le : k ≤ ranked.length
  ties : ∀ first, ranked.head? = some first → ∀ a ∈ ranked.take k, a.ties first = true
  longest : ∀ first a, ranked.head? = some first → ranked[k]? = some a → a.ties first = false

/-- The entry behind a front that is taken while a test holds fails the test. -/
theorem not_of_getElem?_takeWhile {α : Type} {p : α → Bool} {l : List α} {b : α}
    (h : l[(l.takeWhile p).length]? = some b) : p b = false := by
  induction l with
  | nil => simp at h
  | cons a rest ih =>
      by_cases hp : p a = true
      · rw [List.takeWhile_cons_of_pos hp] at h
        exact ih h
      · rw [List.takeWhile_cons_of_neg hp] at h
        obtain rfl : a = b := Option.some.inj h
        simpa using hp

theorem leaders_eq_take (ranked : List ScoredAgent) :
    leaders ranked = ranked.take (leaders ranked).length := by
  cases ranked with
  | nil => rfl
  | cons first rest =>
      have h := List.prefix_iff_eq_take.mp (List.takeWhile_prefix (l := rest) fun s => s.ties first)
      simp only [leaders, List.length_cons, List.take_succ_cons]
      rw [← h]

theorem ties_of_mem_leaders {first a : ScoredAgent} {rest : List ScoredAgent}
    (h : a ∈ leaders (first :: rest)) : a.ties first = true := by
  rcases List.mem_cons.mp h with rfl | hm
  · exact a.ties_refl
  · exact List.all_eq_true.mp List.all_takeWhile a hm

/-- **The agents in front that tie are the longest front that agrees with the first one.** -/
theorem tiedFront_leaders (ranked : List ScoredAgent) :
    TiedFront ranked (leaders ranked).length := by
  cases ranked with
  | nil =>
      refine ⟨Nat.le_refl 0, ?_, ?_⟩
      · intro first hfirst
        cases hfirst
      · intro first a hfirst
        cases hfirst
  | cons first rest =>
      refine ⟨?_, ?_, ?_⟩
      · have hlen := (List.takeWhile_prefix (l := rest) fun s => s.ties first).length_le
        simp only [leaders, List.length_cons]
        omega
      · intro a ha b hb
        obtain rfl : first = a := Option.some.inj ha
        rw [← leaders_eq_take] at hb
        exact ties_of_mem_leaders hb
      · intro a b ha hb
        obtain rfl : first = a := Option.some.inj ha
        have hrest : rest[(rest.takeWhile fun s => s.ties first).length]? = some b := hb
        have hfails := not_of_getElem?_takeWhile hrest
        exact hfails

/-! ## 2. What an answer makes of a ranking -/

/-- **The outcome of an answer for a ranking whose first `k` agents tie.** Only the id of one of
    those who tie changes anything, and only where there are two of them: the first one with the
    id comes to the front. -/
inductive Arranged (ranked : List ScoredAgent) (k : Nat) :
    Option String → List ScoredAgent → Prop where
  | alone (answer : Option String) (hk : k < 2) : Arranged ranked k answer ranked
  | unanswered : Arranged ranked k none ranked
  | outside (id : String) (h : ∀ a ∈ ranked.take k, a.userId ≠ id) :
      Arranged ranked k (some id) ranked
  | promoted (id : String) (before after : List ScoredAgent) (a : ScoredAgent) (hk : 2 ≤ k)
      (hsplit : ranked = before ++ a :: after) (hlt : before.length < k) (hid : a.userId = id)
      (hfirst : ∀ b ∈ before, b.userId ≠ id) :
      Arranged ranked k (some id) (a :: (before ++ after))

/-- Where a front of length `k` reaches past a split, it ends behind it: bringing the entry at the
    split to the front changes neither where it ends nor what is left. -/
theorem exists_take_drop_split {α : Type} {before : List α} {k : Nat} (h : before.length < k)
    (a : α) (after : List α) :
    ∃ j, (before ++ a :: after).take k = before ++ a :: after.take j ∧
      (a :: (before ++ after)).take k = a :: (before ++ after.take j) ∧
      (before ++ a :: after).drop k = after.drop j ∧
      (a :: (before ++ after)).drop k = after.drop j := by
  obtain ⟨j, rfl⟩ : ∃ j, k = before.length + (j + 1) := ⟨k - (before.length + 1), by omega⟩
  have hmoved : before.length + (j + 1) = (before.length + j) + 1 := by omega
  refine ⟨j, ?_, ?_, ?_, ?_⟩
  · rw [List.take_length_add_append, List.take_succ_cons]
  · rw [hmoved, List.take_succ_cons, List.take_length_add_append]
  · rw [List.drop_length_add_append, List.drop_succ_cons]
  · rw [hmoved, List.drop_succ_cons, List.drop_length_add_append]

section Arranged

variable {ranked out : List ScoredAgent} {k : Nat} {answer : Option String}

/-- **Nobody is lost and nobody joins.** -/
theorem Arranged.perm (h : Arranged ranked k answer out) : out.Perm ranked := by
  cases h with
  | alone => exact .refl _
  | unanswered => exact .refl _
  | outside => exact .refl _
  | promoted id before after a hk hsplit hlt hid hfirst =>
      rw [hsplit]
      exact List.perm_middle.symm

/-- **Nobody behind the tie moves.** -/
theorem Arranged.drop_eq (h : Arranged ranked k answer out) : out.drop k = ranked.drop k := by
  cases h with
  | alone => rfl
  | unanswered => rfl
  | outside => rfl
  | promoted id before after a hk hsplit hlt hid hfirst =>
      obtain ⟨j, -, -, hdrop, hmoved⟩ := exists_take_drop_split hlt a after
      rw [hsplit, hdrop, hmoved]

/-- **The others who tie keep their order.** -/
theorem Arranged.tail_sublist (h : Arranged ranked k answer out) :
    (out.take k).tail.Sublist (ranked.take k) := by
  cases h with
  | alone => exact List.tail_sublist _
  | unanswered => exact List.tail_sublist _
  | outside => exact List.tail_sublist _
  | promoted id before after a hk hsplit hlt hid hfirst =>
      obtain ⟨j, htake, hmoved, -, -⟩ := exists_take_drop_split hlt a after
      rw [hsplit, htake, hmoved, List.tail_cons]
      exact (List.sublist_cons_self a (after.take j)).append_left before

/-- **One of those who tie comes first whose id is answered**, as soon as there is one. -/
theorem Arranged.exists_head {id : String} (h : Arranged ranked k (some id) out) (hk : 2 ≤ k)
    (hid : ∃ a ∈ ranked.take k, a.userId = id) :
    ∃ a ∈ ranked.take k, out.head? = some a ∧ a.userId = id := by
  cases h with
  | alone answer hlt => omega
  | outside id hne =>
      obtain ⟨a, ha, hsame⟩ := hid
      exact absurd hsame (hne a ha)
  | promoted id before after a hk' hsplit hlt hsame hfirst =>
      refine ⟨a, ?_, rfl, hsame⟩
      obtain ⟨j, htake, -, -, -⟩ := exists_take_drop_split hlt a after
      rw [hsplit, htake]
      exact List.mem_append_right _ List.mem_cons_self

/-- What is the same for all who tie reads the same in the outcome as in the ranking. -/
theorem Arranged.map_eq {β : Type} {f : ScoredAgent → β} {c : β}
    (h : Arranged ranked k answer out) (hc : ∀ a ∈ ranked.take k, f a = c) :
    out.map f = ranked.map f := by
  cases h with
  | alone => rfl
  | unanswered => rfl
  | outside => rfl
  | promoted id before after a hk hsplit hlt hid hfirst =>
      obtain ⟨j, htake, -, -, -⟩ := exists_take_drop_split hlt a after
      rw [hsplit, htake] at hc
      have hbefore : before.map f = List.replicate before.length c := by
        refine List.eq_replicate_iff.mpr ⟨List.length_map f, fun y hy => ?_⟩
        obtain ⟨b, hb, rfl⟩ := List.mem_map.mp hy
        exact hc b (List.mem_append_left _ hb)
      have ha : f a = c := hc a (List.mem_append_right _ List.mem_cons_self)
      rw [hsplit, List.map_cons, List.map_append, List.map_append, List.map_cons, hbefore, ha,
        ← List.cons_append, ← List.replicate_succ, List.replicate_succ', List.append_assoc]
      rfl

/-- **The scores and the open leads stand in the outcome as they stand in the ranking.** -/
theorem Arranged.pairs_eq (h : Arranged ranked k answer out) (hfront : TiedFront ranked k) :
    out.map (fun a => (a.score, a.activePipeline)) =
      ranked.map fun a => (a.score, a.activePipeline) := by
  cases hhead : ranked.head? with
  | none =>
      have hnil : ranked = [] := List.head?_eq_none_iff.mp hhead
      subst hnil
      rw [h.perm.eq_nil]
  | some first =>
      refine h.map_eq (c := (first.score, first.activePipeline)) fun a ha => ?_
      obtain ⟨hs, hp⟩ := (ScoredAgent.ties_iff a first).mp (hfront.ties first hhead a ha)
      rw [hs, hp]

end Arranged

/-! ## 3. Every rotation arranges -/

theorem promote_arranged {ranked : List ScoredAgent} {k : Nat} (hk : 2 ≤ k) (id : String) :
    Arranged ranked k (some id) (promote k id ranked) := by
  unfold promote
  cases hfind : (ranked.take k).findIdx? fun s => s.userId = id with
  | none =>
      rw [List.findIdx?_eq_none_iff] at hfind
      refine .outside id fun a ha => ?_
      simpa using hfind a ha
  | some i =>
      rw [List.findIdx?_eq_some_iff_getElem] at hfind
      obtain ⟨hi, hid, hearlier⟩ := hfind
      have hik : i < k := by
        rw [List.length_take] at hi
        omega
      have hir : i < ranked.length := by
        rw [List.length_take] at hi
        omega
      simp only [toFront, List.getElem?_eq_getElem hir, List.eraseIdx_eq_take_drop_succ]
      refine .promoted id (ranked.take i) (ranked.drop (i + 1)) ranked[i] hk ?_ ?_ ?_ ?_
      · rw [List.getElem_cons_drop, List.take_append_drop]
      · rw [List.length_take]
        omega
      · simpa using hid
      · intro b hb
        obtain ⟨j, hj, rfl⟩ := List.mem_iff_getElem.mp hb
        rw [List.length_take] at hj
        have hne := hearlier j (by omega)
        simpa using hne

/-- **Every rotation arranges a ranking by the answer it gives** to the offer of those who tie. -/
theorem arrange_arranged {σ : Type} (rot : Rotation σ) (teamId : String) (pool : List Agent)
    (ranked : List ScoredAgent) (s : σ) :
    Arranged ranked (leaders ranked).length (rot.answer s (.of teamId pool (leaders ranked))).1
      (rot.arrange teamId pool ranked s).1 := by
  unfold Rotation.arrange
  by_cases hk : (leaders ranked).length < 2
  · rw [if_pos hk]
    exact .alone _ hk
  · rw [if_neg hk]
    cases hanswer : (rot.answer s (.of teamId pool (leaders ranked))).1 with
    | none =>
        simp only [hanswer, Option.elim_none]
        exact .unanswered
    | some id =>
        simp only [hanswer, Option.elim_some]
        exact promote_arranged (by omega) id

/-- A selection in another order differs in its agents only. -/
theorem Selection.of_perm (r : LeadRequest) {out ranked : List ScoredAgent}
    (h : out.Perm ranked) : Selection.of r out = { Selection.of r ranked with agents := out } := by
  simp only [Selection.of, h.isEmpty_eq]

/-- **Routing with a rotation selects the ranking as its answer arranges it.** With `k` agents in
    front that tie, the selection is the one without a rotation but for the agent whose turn it is,
    who comes before the others who tie. -/
theorem LeadRequest.routeWith_promotes {σ : Type} (r : LeadRequest) (rot : Rotation σ)
    (teamId : String) (s : σ) :
    ∃ k, TiedFront r.ranking k ∧
      Arranged r.ranking k (rot.answer s (.of teamId r.agents (r.ranking.take k))).1
        (r.routeWith rot teamId s).1.agents ∧
      (r.routeWith rot teamId s).1.agents.Perm r.route.agents ∧
      (r.routeWith rot teamId s).1.agents.map (fun a => (a.score, a.activePipeline)) =
        r.route.agents.map (fun a => (a.score, a.activePipeline)) ∧
      (r.routeWith rot teamId s).1.agents.drop k = r.route.agents.drop k ∧
      ((r.routeWith rot teamId s).1.agents.take k).tail.Sublist (r.route.agents.take k) ∧
      (r.routeWith rot teamId s).1 =
        { r.route with agents := (r.routeWith rot teamId s).1.agents } := by
  have harr := arrange_arranged rot teamId r.agents r.ranking s
  have hfront := tiedFront_leaders r.ranking
  refine ⟨(leaders r.ranking).length, hfront, ?_, harr.perm, harr.pairs_eq hfront, harr.drop_eq,
    harr.tail_sublist, Selection.of_perm r harr.perm⟩
  rw [← leaders_eq_take]
  exact harr

end LeadRouting
