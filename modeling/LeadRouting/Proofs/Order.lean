import Mathlib.Data.Prod.Lex
import Mathlib.Data.String.Basic
import LeadRouting.Routing.Rotation

/-!
# The orders that sort, as keys

Every sort of the library is by a test on two entries. This file reads each test as a comparison of
two KEYS in a linear order, so that what a sort does is said once, for all of them:

* `rank_injective`: the rank of a measured value tells any two values apart, so agents that tie have
  the same score bit by bit;
* `ranksBefore_iff_key` and `turnsBefore_iff_key` give the ranking and the turns their keys;
* `pairwise_mergeSort_of_key`: a sort by a key puts the keys in ascending order;
* `mergeSort_eq_of_perm`: where the key tells the entries apart, a sort forgets their order;
* `filter_mergeSort_of_key`: **picking from what is sorted is sorting what is picked**;
* `filter_key_mergeSort` and `eq_of_filter_key_eq`: a sort keeps the order of the entries of one
  key, and a list in ascending order is determined by the entries of every key;
* `mergeSort_sublist_of_key`: leaving entries out before a sort leaves them out after it;
* `takeWhile_eq_filter`: **in a sorted list a front that is taken while a test holds is all that
  passes the test**, as soon as the test can only pass below a place where it passes.
-/

namespace LeadRouting

/-! ## 1. Sorting by a key -/

section Key

variable {α κ : Type} [LinearOrder κ] {le : α → α → Bool} {key : α → κ}

theorem trans_of_key (h : ∀ a b, le a b = true ↔ key a ≤ key b) (a b c : α)
    (hab : le a b = true) (hbc : le b c = true) : le a c = true := by
  rw [h] at hab hbc ⊢
  exact le_trans hab hbc

theorem total_of_key (h : ∀ a b, le a b = true ↔ key a ≤ key b) (a b : α) :
    (le a b || le b a) = true := by
  rw [Bool.or_eq_true, h, h]
  exact le_total (key a) (key b)

/-- **A sort by a key puts the keys in ascending order.** -/
theorem pairwise_mergeSort_of_key (h : ∀ a b, le a b = true ↔ key a ≤ key b) (l : List α) :
    (l.mergeSort le).Pairwise fun a b => key a ≤ key b :=
  (List.pairwise_mergeSort (trans_of_key h) (total_of_key h) l).imp fun hab => (h _ _).mp hab

/-- **A sort by a key that tells the entries apart forgets their order.** -/
theorem mergeSort_eq_of_perm (h : ∀ a b, le a b = true ↔ key a ≤ key b) {l l' : List α}
    (hkey : ∀ a ∈ l, ∀ b ∈ l, key a = key b → a = b) (hperm : l.Perm l') :
    l.mergeSort le = l'.mergeSort le := by
  have hsorted : (l.mergeSort le).Perm (l'.mergeSort le) :=
    (List.mergeSort_perm l le).trans (hperm.trans (List.mergeSort_perm l' le).symm)
  refine List.Perm.eq_of_pairwise ?_ (pairwise_mergeSort_of_key h l)
    (pairwise_mergeSort_of_key h l') hsorted
  intro a b ha hb hab hba
  have hal : a ∈ l := List.mem_mergeSort.mp ha
  have hbl : b ∈ l := hperm.mem_iff.mpr (List.mem_mergeSort.mp hb)
  exact hkey a hal b hbl (le_antisymm hab hba)

/-- A sort by a key inserts an entry behind what has a smaller key and in front of everything
    else. -/
theorem mergeSort_cons_of_key (h : ∀ a b, le a b = true ↔ key a ≤ key b) (a : α) (l : List α) :
    (a :: l).mergeSort le = (l.mergeSort le).filter (fun b => key b < key a) ++
      a :: (l.mergeSort le).filter fun b => key a ≤ key b := by
  obtain ⟨front, back, hcons, hrest, hfront⟩ :=
    List.mergeSort_cons (trans_of_key h) (total_of_key h) a l
  have hsmaller : ∀ b ∈ front, key b < key a := by
    intro b hb
    rw [← not_le, ← h]
    simpa using hfront b hb
  have hlarger : ∀ b ∈ back, key a ≤ key b := by
    have hsorted := pairwise_mergeSort_of_key h (a :: l)
    rw [hcons] at hsorted
    exact (List.pairwise_cons.mp (List.pairwise_append.mp hsorted).2.1).1
  have hfrontOnly : (front ++ back).filter (fun b => key b < key a) = front := by
    rw [List.filter_append, List.filter_eq_self.mpr fun b hb => decide_eq_true (hsmaller b hb),
      List.filter_eq_nil_iff.mpr fun b hb => by simpa using hlarger b hb, List.append_nil]
  have hbackOnly : (front ++ back).filter (fun b => key a ≤ key b) = back := by
    rw [List.filter_append, List.filter_eq_self.mpr fun b hb => decide_eq_true (hlarger b hb),
      List.filter_eq_nil_iff.mpr fun b hb => by simpa using hsmaller b hb, List.nil_append]
  rw [hcons, hrest, hfrontOnly, hbackOnly]

/-- **Picking from what is sorted is sorting what is picked**, entries of one key included. -/
theorem filter_mergeSort_of_key (h : ∀ a b, le a b = true ↔ key a ≤ key b) (p : α → Bool)
    (l : List α) : (l.mergeSort le).filter p = (l.filter p).mergeSort le := by
  induction l with
  | nil => rw [List.mergeSort_nil, List.filter_nil, List.mergeSort_nil]
  | cons a rest ih =>
      by_cases ha : p a = true
      · rw [List.filter_cons_of_pos ha, mergeSort_cons_of_key h, mergeSort_cons_of_key h, ← ih,
          List.filter_append, List.filter_cons_of_pos ha, List.filter_comm p, List.filter_comm p]
      · -- the entry stands between the two parts of the sorted rest and is dropped there
        obtain ⟨front, back, hcons, hrest, -⟩ :=
          List.mergeSort_cons (trans_of_key h) (total_of_key h) a rest
        rw [List.filter_cons_of_neg ha, ← ih, hcons, hrest, List.filter_append,
          List.filter_cons_of_neg ha, List.filter_append]

/-- **A sort by a key keeps the order of the entries of one key.** -/
theorem filter_key_mergeSort (h : ∀ a b, le a b = true ↔ key a ≤ key b) (k : κ) (l : List α) :
    (l.mergeSort le).filter (fun a => key a = k) = l.filter fun a => key a = k := by
  rw [filter_mergeSort_of_key h]
  refine List.mergeSort_of_pairwise (List.pairwise_of_forall_mem_list fun a ha b hb => ?_)
  have hka : key a = k := of_decide_eq_true (List.mem_filter.mp ha).2
  have hkb : key b = k := of_decide_eq_true (List.mem_filter.mp hb).2
  rw [h, hka, hkb]

/-- The first entry of a list in ascending order has the smallest key. -/
theorem key_le_of_mem_cons {a b : α} {l : List α}
    (hl : (a :: l).Pairwise fun a b => key a ≤ key b) (hb : b ∈ a :: l) : key a ≤ key b := by
  rcases List.mem_cons.mp hb with rfl | hm
  · exact le_refl _
  · exact (List.pairwise_cons.mp hl).1 b hm

/-- Two lists that have the same entries of every key have the same entries. -/
theorem mem_iff_of_filter_key_eq {l l' : List α}
    (h : ∀ c, l.filter (fun a => key a = key c) = l'.filter fun a => key a = key c) (a : α) :
    a ∈ l ↔ a ∈ l' := by
  have hfilter : a ∈ l.filter (fun b => key b = key a) ↔
      a ∈ l'.filter fun b => key b = key a := by rw [h]
  simpa only [List.mem_filter, decide_true, and_true] using hfilter

/-- **A list in ascending order is determined by the entries of every key**, in their order. -/
theorem eq_of_filter_key_eq {l l' : List α} (hl : l.Pairwise fun a b => key a ≤ key b)
    (hl' : l'.Pairwise fun a b => key a ≤ key b)
    (h : ∀ c, l.filter (fun a => key a = key c) = l'.filter fun a => key a = key c) :
    l = l' := by
  have hmem := mem_iff_of_filter_key_eq h
  induction l generalizing l' with
  | nil =>
      cases l' with
      | nil => rfl
      | cons b rest => exact absurd ((hmem b).mpr List.mem_cons_self) List.not_mem_nil
  | cons a rest ih =>
      cases l' with
      | nil => exact absurd ((hmem a).mp List.mem_cons_self) List.not_mem_nil
      | cons b rest' =>
          -- both stand first, so neither has the smaller key
          have hab : key a ≤ key b := key_le_of_mem_cons hl ((hmem b).mpr List.mem_cons_self)
          have hba : key b ≤ key a := key_le_of_mem_cons hl' ((hmem a).mp List.mem_cons_self)
          have hkey : key b = key a := le_antisymm hba hab
          have hfirst := h a
          simp only [List.filter_cons, hkey, decide_true, if_true] at hfirst
          obtain ⟨rfl, hsame⟩ := List.cons.inj hfirst
          have htail : ∀ c, rest.filter (fun d => key d = key c) =
              rest'.filter fun d => key d = key c := by
            intro c
            by_cases hk : key a = key c
            · exact hk ▸ hsame
            · have hall := h c
              simpa only [List.filter_cons, hk, decide_false, Bool.false_eq_true, if_false] using hall
          rw [ih hl.of_cons hl'.of_cons htail (mem_iff_of_filter_key_eq htail)]

/-- **Leaving entries out before a sort leaves them out after it.** -/
theorem mergeSort_sublist_of_key (h : ∀ a b, le a b = true ↔ key a ≤ key b) {l l' : List α}
    (hsub : l.Sublist l') : (l.mergeSort le).Sublist (l'.mergeSort le) := by
  induction hsub with
  | slnil => exact List.Sublist.refl _
  | @cons _ rest a _ ih =>
      obtain ⟨front, back, hcons, hrest, -⟩ :=
        List.mergeSort_cons (trans_of_key h) (total_of_key h) a rest
      rw [hrest] at ih
      rw [hcons]
      exact ih.trans ((List.sublist_cons_self a back).append_left front)
  | cons_cons a _ ih =>
      rw [mergeSort_cons_of_key h, mergeSort_cons_of_key h]
      exact (ih.filter _).append ((ih.filter _).cons_cons a)

end Key

/-- If the test passes at an entry only where it passes at all earlier ones, the front that passes
    is all that passes. -/
theorem takeWhile_eq_filter {α : Type} {p : α → Bool} {l : List α}
    (h : l.Pairwise fun a b => p b = true → p a = true) : l.takeWhile p = l.filter p := by
  induction l with
  | nil => rfl
  | cons a rest ih =>
      obtain ⟨ha, hrest⟩ := List.pairwise_cons.mp h
      by_cases hp : p a = true
      · rw [List.takeWhile_cons_of_pos hp, List.filter_cons_of_pos hp, ih hrest]
      · have hnone : rest.filter p = [] := by
          rw [List.filter_eq_nil_iff]
          intro b hb hpb
          exact hp (ha b hb hpb)
        rw [List.takeWhile_cons_of_neg hp, List.filter_cons_of_neg hp, hnone]

/-! ## 2. The rank of a value -/

namespace Number

theorem toBits_injective {x y : Float} (h : x.toBits = y.toBits) : x = y := by
  cases x with
  | ofModel m =>
      cases y with
      | ofModel n =>
          have hbits : m.toBits = n.toBits := h
          cases m
          cases n
          simp only at hbits
          subst hbits
          rfl

/-- **Two values of the same rank are the same value**, down to the sign of a zero. -/
theorem rank_injective {x y : Float} (h : rank x = rank y) : x = y := by
  apply toBits_injective
  apply UInt64.toNat_inj.mp
  have hx : x.toBits.toNat < 2 * signBit := x.toBits.toNat_lt
  have hy : y.toBits.toNat < 2 * signBit := y.toBits.toNat_lt
  have hs : signBit = 9223372036854775808 := rfl
  unfold rank negative absBits at h
  rw [hs] at hx hy h
  split at h <;> split at h
  all_goals simp only [decide_eq_true_eq] at *
  all_goals omega

theorem rank_inj {x y : Float} : rank x = rank y ↔ x = y := ⟨rank_injective, congrArg rank⟩

end Number

/-! ## 3. The ranking -/

namespace ScoredAgent

/-- What agents are ranked by: descending score, ascending open leads, ascending id. -/
def rankKey (a : ScoredAgent) : Int ×ₗ Nat ×ₗ String :=
  toLex (-Number.rank a.score, toLex (a.activePipeline.toNat, a.userId))

/-- What agents tie in. -/
def tieKey (a : ScoredAgent) : Int ×ₗ Nat :=
  toLex (-Number.rank a.score, a.activePipeline.toNat)

theorem ranksBefore_iff_key (a b : ScoredAgent) :
    ranksBefore a b = true ↔ a.rankKey ≤ b.rankKey := by
  unfold ranksBefore rankKey
  rw [Prod.Lex.toLex_le_toLex, Prod.Lex.toLex_le_toLex]
  simp only [Bool.or_eq_true, Bool.and_eq_true, decide_eq_true_eq, UInt32.lt_iff_toNat_lt,
    ← UInt32.toNat_inj, Int.neg_lt_neg_iff, Int.neg_inj]

theorem ties_iff_key (a b : ScoredAgent) : a.ties b = true ↔ a.tieKey = b.tieKey := by
  unfold ties tieKey
  rw [toLex_inj, Prod.mk.injEq]
  simp only [Bool.and_eq_true, decide_eq_true_eq, Int.neg_inj, UInt32.toNat_inj]

/-- **Agents that tie have the same score and the same number of open leads.** -/
theorem ties_iff (a b : ScoredAgent) :
    a.ties b = true ↔ a.score = b.score ∧ a.activePipeline = b.activePipeline := by
  unfold ties
  simp only [Bool.and_eq_true, decide_eq_true_eq, Number.rank_inj]

theorem tieKey_le_of_rankKey_le {a b : ScoredAgent} (h : a.rankKey ≤ b.rankKey) :
    a.tieKey ≤ b.tieKey := by
  unfold rankKey at h
  unfold tieKey
  rw [Prod.Lex.toLex_le_toLex] at h ⊢
  rcases h with h | ⟨h, hrest⟩
  · exact Or.inl h
  · rw [Prod.Lex.toLex_le_toLex] at hrest
    refine Or.inr ⟨h, ?_⟩
    rcases hrest with hlt | ⟨heq, -⟩
    · exact hlt.le
    · exact heq.le

end ScoredAgent

/-- **The ranking is in ascending order of its keys.** -/
theorem LeadRequest.ranking_pairwise (r : LeadRequest) :
    r.ranking.Pairwise fun a b => a.rankKey ≤ b.rankKey :=
  pairwise_mergeSort_of_key ScoredAgent.ranksBefore_iff_key _

/-- A request whose scores stand in order already is ranked as it is. -/
theorem LeadRequest.ranking_of_pairwise {r : LeadRequest}
    (h : (r.scores.filter r.admits).Pairwise fun a b => ScoredAgent.ranksBefore a b = true) :
    r.ranking = r.scores.filter r.admits := List.mergeSort_of_pairwise h

/-- Where the ranking is in order, everybody who ties stands in front. -/
theorem leaders_cons_of_pairwise {first : ScoredAgent} {rest : List ScoredAgent}
    (h : (first :: rest).Pairwise fun a b => a.rankKey ≤ b.rankKey) :
    leaders (first :: rest) = first :: rest.filter fun a => a.ties first := by
  obtain ⟨hfirst, hrest⟩ := List.pairwise_cons.mp h
  have hfront : rest.Pairwise fun a b => b.ties first = true → a.ties first = true := by
    refine List.Pairwise.imp_of_mem ?_ hrest
    intro a b ha _ hab hb
    rw [ScoredAgent.ties_iff_key] at hb ⊢
    -- the key of `a` lies between that of the first agent and that of `b`, which are equal
    have hle : a.tieKey ≤ b.tieKey := ScoredAgent.tieKey_le_of_rankKey_le hab
    have hge : first.tieKey ≤ a.tieKey := ScoredAgent.tieKey_le_of_rankKey_le (hfirst a ha)
    exact le_antisymm (hb ▸ hle) hge
  rw [leaders, takeWhile_eq_filter hfront]

/-- The first agent is among those who tie with it. -/
theorem filter_ties_cons (first : ScoredAgent) (rest : List ScoredAgent) :
    (first :: rest).filter (fun a => a.ties first) =
      first :: rest.filter fun a => a.ties first := List.filter_cons_of_pos first.ties_refl

/-- **The agents in front that tie are all that tie with the first one**: nobody who ties stands
    behind somebody who does not. -/
theorem leaders_eq_filter {first : ScoredAgent} {rest : List ScoredAgent}
    (h : (first :: rest).Pairwise fun a b => a.rankKey ≤ b.rankKey) :
    leaders (first :: rest) = (first :: rest).filter fun a => a.ties first := by
  rw [leaders_cons_of_pairwise h, filter_ties_cons]

/-! ## 4. Turns -/

/-- What turns go by: those with a place first, ascending by it, then ascending by id. -/
def turnKey (pool : List Agent) (id : String) : Bool ×ₗ Nat ×ₗ String :=
  match rotationOrder? pool id with
  | some place => toLex (false, toLex (place.toNat, id))
  | none => toLex (true, toLex (0, id))

theorem turnsBefore_iff_key (pool : List Agent) (a b : String) :
    turnsBefore pool a b = true ↔ turnKey pool a ≤ turnKey pool b := by
  unfold turnsBefore turnKey
  cases rotationOrder? pool a with
  | none =>
      cases rotationOrder? pool b with
      | none => simp [Prod.Lex.toLex_le_toLex]
      | some y => simp [Prod.Lex.toLex_le_toLex]
  | some x =>
      cases rotationOrder? pool b with
      | none => simp [Prod.Lex.toLex_le_toLex]
      | some y =>
          simp [Prod.Lex.toLex_le_toLex, UInt32.lt_iff_toNat_lt, ← UInt32.toNat_inj]

/-- **What is offered is in the order of the turns.** -/
theorem Offer.of_pairwise (teamId : String) (pool : List Agent) (tied : List ScoredAgent) :
    (Offer.of teamId pool tied).tied.Pairwise fun a b => turnKey pool a ≤ turnKey pool b :=
  pairwise_mergeSort_of_key (turnsBefore_iff_key pool) _

/-- What is offered are the ids of those who tie. -/
theorem Offer.of_perm (teamId : String) (pool : List Agent) (tied : List ScoredAgent) :
    (Offer.of teamId pool tied).tied.Perm (tied.map ScoredAgent.userId) :=
  List.mergeSort_perm _ _

end LeadRouting
