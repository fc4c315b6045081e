import Mathlib.Data.List.Rotate
import LeadRouting.Routing.Rotation

/-!
# Going round in turns

Who remembers the last turn by its id goes round: the one after the last one is next. This file says
what that means for a list of agents without repeated ids, as a fact about lists.

* `after_getElem` -- after the turn of the entry at `i` comes the entry at `i + 1`, wrapping round;
* `turnsFrom order j m` -- `m` turns from place `j` on, round and round;
* `FairTurns tied firsts` -- the SPECIFICATION of fairness: in every stretch as long as the tie each
  one comes first exactly once and nobody else does, the turns repeat after that many, and over any
  number of turns nobody comes first twice more often than another one;
* **`fairTurns_turnsFrom`** -- going round is fair, from every place and for every number of turns.
-/

namespace LeadRouting

/-! ## 1. The next turn -/

namespace Turns

/-- **After the turn of the entry at `i` comes the entry at `i + 1`**, wrapping round. -/
theorem after_getElem {ids : List String} (h : ids.Nodup) {i : Nat} (hi : i < ids.length) :
    after ids (some ids[i]) = ids[(i + 1) % ids.length]? := by
  have hplace : ids.idxOf? ids[i] = some i := by
    rw [List.idxOf?_eq_some_iff]
    refine ⟨hi, rfl, fun j hj hsame => ?_⟩
    have hij : j = i := (List.Nodup.getElem_inj_iff h).mp hsame
    omega
  unfold after
  rw [Option.bind_some, hplace]

/-- From every memory the turns start somewhere. -/
theorem exists_after {ids : List String} (h : ids ≠ []) (last : Option String) :
    ∃ j, after ids last = ids[j % ids.length]? := by
  have hpos : 0 < ids.length := List.length_pos_iff.mpr h
  unfold after
  cases last.bind ids.idxOf? with
  | none =>
      refine ⟨0, ?_⟩
      rw [Nat.zero_mod, List.head?_eq_getElem?]
  | some i => exact ⟨i + 1, rfl⟩

/-- From every memory it is the turn of somebody. -/
theorem exists_after_eq_some {ids : List String} (h : ids ≠ []) (last : Option String) :
    ∃ id, after ids last = some id := by
  obtain ⟨j, hj⟩ := exists_after h last
  rw [List.getElem?_eq_getElem (Nat.mod_lt j (List.length_pos_iff.mpr h))] at hj
  exact ⟨_, hj⟩

end Turns

/-! ## 2. Turns from a place on -/

section Cycle

variable {α : Type} {order : List α} {i j m : Nat}

/-- The entries whose turn it is in `m` turns from place `j` on, round and round. -/
def turnsFrom (order : List α) (j m : Nat) : List (Option α) :=
  (List.range' j m).map fun k => order[k % order.length]?

theorem turnsFrom_succ (order : List α) (j m : Nat) :
    turnsFrom order j (m + 1) = order[j % order.length]? :: turnsFrom order (j + 1) m := rfl

@[simp] theorem length_turnsFrom (order : List α) (j m : Nat) :
    (turnsFrom order j m).length = m := by
  unfold turnsFrom
  rw [List.length_map, List.length_range']

theorem drop_turnsFrom (order : List α) (i j m : Nat) :
    (turnsFrom order j m).drop i = turnsFrom order (j + i) (m - i) := by
  unfold turnsFrom
  rw [← List.map_drop, List.drop_range', Nat.mul_one]

theorem take_turnsFrom (order : List α) (j : Nat) (h : i ≤ m) :
    (turnsFrom order j m).take i = turnsFrom order j i := by
  unfold turnsFrom
  rw [← List.map_take, List.take_range'_of_length_ge h]

theorem turnsFrom_add (order : List α) (j m n : Nat) :
    turnsFrom order j (m + n) = turnsFrom order j m ++ turnsFrom order (j + m) n := by
  unfold turnsFrom
  rw [← List.range'_append_1, List.map_append]

theorem getElem?_turnsFrom (order : List α) (j : Nat) (h : i < m) :
    (turnsFrom order j m)[i]? = some order[(j + i) % order.length]? := by
  unfold turnsFrom
  rw [List.getElem?_map, List.getElem?_range' h, Nat.one_mul, Option.map_some]

/-- Every turn is somebody's. -/
theorem mem_of_mem_turnsFrom (h : order ≠ []) {x : Option α} (hx : x ∈ turnsFrom order j m) :
    ∃ a ∈ order, x = some a := by
  unfold turnsFrom at hx
  obtain ⟨k, -, rfl⟩ := List.mem_map.mp hx
  have hlt : k % order.length < order.length := Nat.mod_lt _ (List.length_pos_iff.mpr h)
  exact ⟨order[k % order.length], List.getElem_mem hlt, List.getElem?_eq_getElem hlt⟩

/-- **One round takes everybody once**, from wherever it starts. -/
theorem turnsFrom_round (order : List α) (j : Nat) :
    turnsFrom order j order.length = (order.rotate j).map some := by
  apply List.ext_getElem?
  intro k
  by_cases hk : k < order.length
  · have hkr : k < (order.rotate j).length := by rwa [List.length_rotate]
    have hidx : (j + k) % order.length < order.length := Nat.mod_lt _ (by omega)
    rw [getElem?_turnsFrom order j hk, List.getElem?_map, List.getElem?_rotate hk, Nat.add_comm k j,
      List.getElem?_eq_getElem hidx, Option.map_some]
  · rw [List.getElem?_eq_none (by rw [length_turnsFrom]; omega),
      List.getElem?_eq_none (by rw [List.length_map, List.length_rotate]; omega)]

theorem turnsFrom_round_perm (order : List α) (j : Nat) :
    (turnsFrom order j order.length).Perm (order.map some) := by
  rw [turnsFrom_round]
  exact (List.rotate_perm order j).map some

theorem count_round [DecidableEq α] (h : order.Nodup) {a : α} (ha : a ∈ order) (j : Nat) :
    (turnsFrom order j order.length).count (some a) = 1 := by
  have hsome : (order.map some).Nodup := h.map fun _ _ e => Option.some.inj e
  rw [(turnsFrom_round_perm order j).count_eq]
  exact List.count_eq_one_of_mem hsome (List.mem_map_of_mem ha)

/-- **Over any number of turns two entries differ by at most one.** -/
theorem count_turnsFrom_le [DecidableEq α] (h : order.Nodup) {a b : α} (ha : a ∈ order)
    (hb : b ∈ order) (j m : Nat) :
    (turnsFrom order j m).count (some a) ≤ (turnsFrom order j m).count (some b) + 1 := by
  have hpos : 0 < order.length := List.length_pos_of_mem ha
  induction m using Nat.strongRecOn generalizing j with
  | ind m ih =>
      by_cases hm : m < order.length
      · -- less than a round: a part of one, in which everybody comes once
        have hpart : (turnsFrom order j m).Sublist (turnsFrom order j order.length) := by
          rw [← take_turnsFrom order j (Nat.le_of_lt hm)]
          exact List.take_sublist _ _
        have hle := hpart.count_le (some a)
        rw [count_round h ha] at hle
        omega
      · -- a whole round, in which everybody comes once, and the rest
        have hsplit : m = order.length + (m - order.length) := by omega
        have hrest := ih (m - order.length) (by omega) (j + order.length)
        rw [hsplit, turnsFrom_add, List.count_append, List.count_append, count_round h ha,
          count_round h hb]
        omega

end Cycle

/-! ## 3. Fairness -/

/-- **What is fair to those who tie**, said of the agents that come first in a number of turns. -/
structure FairTurns (tied : List ScoredAgent) (firsts : List (Option ScoredAgent)) : Prop where
  nodup : (tied.map ScoredAgent.userId).Nodup
  mem : ∀ x ∈ firsts, ∃ a ∈ tied, x = some a
  window : ∀ i, i + tied.length ≤ firsts.length →
    ((firsts.drop i).take tied.length).Perm (tied.map some)
  period : ∀ i, i + tied.length < firsts.length → firsts[i + tied.length]? = firsts[i]?
  balanced : ∀ a ∈ tied, ∀ b ∈ tied, firsts.count (some a) ≤ firsts.count (some b) + 1

/-- **Going round is fair**, from every place and for every number of turns. -/
theorem fairTurns_turnsFrom {tied order : List ScoredAgent} (hperm : tied.Perm order)
    (hne : order ≠ []) (hids : (order.map ScoredAgent.userId).Nodup) (j m : Nat) :
    FairTurns tied (turnsFrom order j m) := by
  have hlen : tied.length = order.length := hperm.length_eq
  refine ⟨?_, fun x hx => ?_, fun i hi => ?_, fun i hi => ?_, fun a ha b hb => ?_⟩
  · exact (hperm.map ScoredAgent.userId).nodup_iff.mpr hids
  · obtain ⟨a, ha, rfl⟩ := mem_of_mem_turnsFrom hne hx
    exact ⟨a, hperm.mem_iff.mpr ha, rfl⟩
  · rw [length_turnsFrom] at hi
    rw [drop_turnsFrom, hlen, take_turnsFrom order (j + i) (by omega)]
    exact (turnsFrom_round_perm order (j + i)).trans (hperm.map some).symm
  · rw [length_turnsFrom] at hi
    rw [getElem?_turnsFrom order j hi, getElem?_turnsFrom order j (by omega), hlen,
      ← Nat.add_assoc, Nat.add_mod_right]
  · have hnodup : order.Nodup := List.Nodup.of_map ScoredAgent.userId hids
    exact count_turnsFrom_le hnodup (hperm.mem_iff.mp ha) (hperm.mem_iff.mp hb) j m

end LeadRouting
