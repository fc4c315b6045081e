import Mathlib.Data.List.Induction
import LeadRouting.Proofs.Admission
import LeadRouting.Proofs.PoolOrder

/-!
# What targets come to

Targets that no pond comes first of are looked at together: an entry of the pool stays if one of
them wants it and no wanted entry of its id came before. This file says where in the pool these
entries stand, and so that they depend neither on how the targets are listed nor on how often they
are resolved.

* `Unponded` -- no pond comes first; `resolve_of_unponded`: then the targets come to agents;
* `Named`, `wanted_iff_named` -- whom targets want, said by the ids and the teams that they name;
* `Adds`, `poolOf_concat` -- what one more entry at the end of a pool changes; `mem_ids_poolOf_iff`:
  the ids that are left are those of the wanted entries;
* `AddsAt targets pool i` -- the SPECIFICATION of the entries that stay, by their places;
  `Resolved`: the entries at these places in the order of the pool, and nothing else;
* **`resolve_resolved`** -- targets come to what is specified. Targets that are listed in another
  way come to the same, what was resolved stays as it is, and two lists of targets put together
  come to the ids of both.
-/

namespace LeadRouting

/-- No pond comes first. -/
def Unponded (targets : List Target) : Prop := ∀ id rest, targets ≠ .pond id :: rest

theorem resolve_of_unponded {targets : List Target} (h : Unponded targets) (pool : List Agent) :
    resolve targets pool = .agents (poolOf targets pool) := by
  cases targets with
  | nil => rfl
  | cons target rest =>
      cases target with
      | agents ids => rfl
      | team id strategy => rfl
      | pond id => exact absurd rfl (h id rest)

theorem Unponded.append {targets more : List Target} (h : Unponded targets) (h' : Unponded more) :
    Unponded (targets ++ more) := by
  cases targets with
  | nil => exact h'
  | cons target rest =>
      rintro id others heq
      obtain ⟨rfl, -⟩ := List.cons.inj heq
      exact h id rest rfl

/-! ## 1. Whom targets want -/

/-- **Some target names the agent, or the team that the agent is on.** -/
def Named (targets : List Target) (a : Agent) : Prop :=
  (∃ ids, Target.agents ids ∈ targets ∧ a.userId ∈ ids) ∨
    ∃ team strategy, Target.team team strategy ∈ targets ∧ a.teamId = some team

theorem wanted_iff_named {targets : List Target} {a : Agent} :
    Wanted targets a ↔ Named targets a := by
  constructor
  · rintro ⟨t, ht, hincludes⟩
    cases t with
    | agents ids => exact .inl ⟨ids, ht, List.contains_iff_mem.mp hincludes⟩
    | team id strategy => exact .inr ⟨id, strategy, ht, of_decide_eq_true hincludes⟩
    | pond id => cases hincludes
  · rintro (⟨ids, ht, hid⟩ | ⟨team, strategy, ht, hteam⟩)
    · exact ⟨.agents ids, ht, List.contains_iff_mem.mpr hid⟩
    · exact ⟨.team team strategy, ht, decide_eq_true hteam⟩

theorem named_append_iff {targets more : List Target} {a : Agent} :
    Named (targets ++ more) a ↔ Named targets a ∨ Named more a := by
  simp only [← wanted_iff_named, Wanted, List.mem_append, or_and_right, exists_or]

theorem any_includes_iff {targets : List Target} {a : Agent} :
    (targets.any fun t => t.includes a) = true ↔ Named targets a :=
  List.any_eq_true.trans wanted_iff_named

/-- The same targets, in whatever order and however often, want the same agents. -/
theorem poolOf_congr {targets others : List Target} (h : ∀ t, t ∈ others ↔ t ∈ targets)
    (pool : List Agent) : poolOf others pool = poolOf targets pool := by
  have hany : ∀ a : Agent, (others.any fun t => t.includes a) = targets.any fun t => t.includes a := by
    intro a
    rw [Bool.eq_iff_iff, List.any_eq_true, List.any_eq_true]
    exact exists_congr fun t => and_congr_left fun _ => h t
  unfold poolOf
  simp only [hany]

/-! ## 2. The pool, entry by entry -/

/-- Every id is left that is not among the seen ones. -/
theorem mem_ids_firstEntries_iff {seen : List String} {pool : List Agent} {id : String} :
    id ∈ (firstEntries seen pool).map Agent.userId ↔
      id ∉ seen ∧ id ∈ pool.map Agent.userId := by
  induction pool generalizing seen with
  | nil => simp [firstEntries]
  | cons a rest ih =>
      unfold firstEntries
      by_cases ha : a.userId ∈ seen
      · rw [if_pos (List.contains_iff_mem.mpr ha), ih, List.map_cons, List.mem_cons]
        refine and_congr_right fun hid => (or_iff_right ?_).symm
        rintro rfl
        exact hid ha
      · rw [if_neg fun h => ha (List.contains_iff_mem.mp h), List.map_cons, List.mem_cons, ih,
          List.map_cons, List.mem_cons, List.mem_cons, not_or]
        constructor
        · rintro (rfl | ⟨⟨-, hid⟩, hrest⟩)
          · exact ⟨ha, .inl rfl⟩
          · exact ⟨hid, .inr hrest⟩
        · rintro ⟨hid, rfl | hrest⟩
          · exact .inl rfl
          · by_cases hsame : id = a.userId
            · exact .inl hsame
            · exact .inr ⟨⟨hsame, hid⟩, hrest⟩

/-- One more entry at the end is left where its id is new. -/
theorem firstEntries_concat (seen : List String) (pool : List Agent) (a : Agent) :
    firstEntries seen (pool ++ [a]) = firstEntries seen pool ++
      if a.userId ∈ seen ∨ a.userId ∈ pool.map Agent.userId then [] else [a] := by
  induction pool generalizing seen with
  | nil => simp [firstEntries]
  | cons b rest ih =>
      rw [List.cons_append]
      unfold firstEntries
      by_cases hb : b.userId ∈ seen
      · -- an id that was seen is no news
        have hsame : (a.userId ∈ seen ∨ a.userId ∈ (b :: rest).map Agent.userId) ↔
            (a.userId ∈ seen ∨ a.userId ∈ rest.map Agent.userId) := by
          rw [List.map_cons, List.mem_cons]
          constructor
          · rintro (ha | ha | ha)
            · exact .inl ha
            · exact .inl (ha ▸ hb)
            · exact .inr ha
          · rintro (ha | ha)
            · exact .inl ha
            · exact .inr (.inr ha)
        rw [if_pos (List.contains_iff_mem.mpr hb), if_pos (List.contains_iff_mem.mpr hb), ih]
        simp only [hsame]
      · have hmoved : (a.userId ∈ b.userId :: seen ∨ a.userId ∈ rest.map Agent.userId) ↔
            (a.userId ∈ seen ∨ a.userId ∈ (b :: rest).map Agent.userId) := by
          rw [List.map_cons, List.mem_cons, List.mem_cons, or_assoc, or_left_comm]
        have hnot : ¬ seen.contains b.userId = true := fun h => hb (List.contains_iff_mem.mp h)
        rw [if_neg hnot, if_neg hnot, ih, List.cons_append]
        simp only [hmoved]

/-- **The entry is wanted, and no wanted entry of its id is in the pool already.** -/
def Adds (targets : List Target) (pool : List Agent) (a : Agent) : Prop :=
  Named targets a ∧ ∀ b ∈ pool, Named targets b → b.userId ≠ a.userId

section Pools

variable {targets : List Target} {pool : List Agent} {a : Agent}

/-- An entry at the end is left where it adds something. -/
theorem poolOf_concat (h : Adds targets pool a) :
    poolOf targets (pool ++ [a]) = poolOf targets pool ++ [a] := by
  obtain ⟨hnamed, hnew⟩ := h
  have hfresh : ¬ (a.userId ∈ [] ∨
      a.userId ∈ (pool.filter fun b => targets.any fun t => t.includes b).map Agent.userId) := by
    rintro (hid | hid)
    · exact absurd hid List.not_mem_nil
    · obtain ⟨b, hb, hid⟩ := List.mem_map.mp hid
      obtain ⟨hb, hincludes⟩ := List.mem_filter.mp hb
      exact hnew b hb (any_includes_iff.mp hincludes) hid
  have hkept : [a].filter (fun b => targets.any fun t => t.includes b) = [a] :=
    List.filter_cons_of_pos (any_includes_iff.mpr hnamed)
  unfold poolOf
  rw [List.filter_append, hkept, firstEntries_concat, if_neg hfresh]

/-- An entry at the end is left out where it adds nothing. -/
theorem poolOf_concat_of_not (h : ¬ Adds targets pool a) :
    poolOf targets (pool ++ [a]) = poolOf targets pool := by
  unfold poolOf
  rw [List.filter_append]
  by_cases hnamed : Named targets a
  · have hkept : [a].filter (fun b => targets.any fun t => t.includes b) = [a] :=
      List.filter_cons_of_pos (any_includes_iff.mpr hnamed)
    have hknown : a.userId ∈ [] ∨
        a.userId ∈ (pool.filter fun b => targets.any fun t => t.includes b).map Agent.userId := by
      by_contra hfresh
      refine h ⟨hnamed, fun b hb hwanted hid => hfresh (.inr (List.mem_map.mpr ⟨b, ?_, hid⟩))⟩
      exact List.mem_filter.mpr ⟨hb, any_includes_iff.mpr hwanted⟩
    rw [hkept, firstEntries_concat, if_pos hknown, List.append_nil]
  · have hdropped : [a].filter (fun b => targets.any fun t => t.includes b) = [] :=
      List.filter_cons_of_neg fun hincludes => hnamed (any_includes_iff.mp hincludes)
    rw [hdropped, List.append_nil]

variable (targets pool)

/-- **The ids that are left are those of the wanted entries.** -/
theorem mem_ids_poolOf_iff (id : String) :
    id ∈ (poolOf targets pool).map Agent.userId ↔
      ∃ a ∈ pool, a.userId = id ∧ Named targets a := by
  unfold poolOf
  rw [mem_ids_firstEntries_iff, and_iff_right List.not_mem_nil, List.mem_map]
  constructor
  · rintro ⟨a, ha, hid⟩
    obtain ⟨ha, hincludes⟩ := List.mem_filter.mp ha
    exact ⟨a, ha, hid, any_includes_iff.mp hincludes⟩
  · rintro ⟨a, ha, hid, hnamed⟩
    exact ⟨a, List.mem_filter.mpr ⟨ha, any_includes_iff.mpr hnamed⟩, hid⟩

theorem poolOf_sublist : (poolOf targets pool).Sublist pool := by
  induction pool using List.reverseRecOn with
  | nil => exact List.Sublist.refl _
  | append_singleton pool a ih =>
      by_cases hadds : Adds targets pool a
      · rw [poolOf_concat hadds]
        exact ih.append (List.Sublist.refl _)
      · rw [poolOf_concat_of_not hadds]
        exact ih.trans (List.sublist_append_left pool [a])

/-- What was resolved stays as it is. -/
theorem poolOf_poolOf : poolOf targets (poolOf targets pool) = poolOf targets pool := by
  have hnodup : ((poolOf targets pool).map Agent.userId).Nodup := nodup_firstEntries [] _
  rw [poolOf_of_nodup hnodup, List.filter_eq_self]
  intro a ha
  obtain ⟨-, -, -, hwanted, -⟩ := mem_poolOf_iff.mp ha
  exact any_includes_iff.mpr (wanted_iff_named.mp hwanted)

/-! ## 3. The places of the entries -/

/-- **The entry at the place adds something to what stands before it.** -/
def AddsAt (i : Nat) : Prop := ∃ a, pool[i]? = some a ∧ Adds targets (pool.take i) a

/-- **What targets owe to a pool**: the entries that add something to those before them, in the
    order of the pool. So it holds each id once, and the ids of all wanted entries. -/
structure Resolved (out : List Agent) : Prop where
  places : ∃ places : List Nat, places.Pairwise (· < ·) ∧
    (∀ i, i ∈ places ↔ AddsAt targets pool i) ∧ places.map (pool[·]?) = out.map some
  sublist : out.Sublist pool
  nodup : (out.map Agent.userId).Nodup
  ids_iff : ∀ id, id ∈ out.map Agent.userId ↔ ∃ a ∈ pool, a.userId = id ∧ Named targets a

variable {targets pool}

theorem AddsAt.lt_length {i : Nat} (h : AddsAt targets pool i) : i < pool.length := by
  obtain ⟨a, ha, -⟩ := h
  exact (List.getElem?_eq_some_iff.mp ha).1

/-- A further entry changes nothing for the places before it. -/
theorem addsAt_concat_iff {i : Nat} :
    AddsAt targets (pool ++ [a]) i ↔
      AddsAt targets pool i ∨ i = pool.length ∧ Adds targets pool a := by
  rcases Nat.lt_trichotomy i pool.length with hi | rfl | hi
  · rw [or_iff_left fun h => Nat.ne_of_lt hi h.1]
    unfold AddsAt
    rw [List.getElem?_append_left hi, List.take_append_of_le_length hi.le]
  · rw [or_iff_right fun h => Nat.lt_irrefl _ h.lt_length]
    unfold AddsAt
    rw [List.getElem?_concat_length, List.take_append_of_le_length le_rfl, List.take_length]
    simp
  · constructor
    · intro h
      have hlength := h.lt_length
      rw [List.length_append, List.length_singleton] at hlength
      omega
    · rintro (h | ⟨rfl, -⟩)
      · exact absurd h.lt_length (Nat.lt_asymm hi)
      · exact absurd hi (Nat.lt_irrefl _)

variable (targets pool)

/-- **The pool of targets holds the entries that add something.** -/
theorem exists_places : ∃ places : List Nat, places.Pairwise (· < ·) ∧
    (∀ i, i ∈ places ↔ AddsAt targets pool i) ∧
      places.map (pool[·]?) = (poolOf targets pool).map some := by
  induction pool using List.reverseRecOn with
  | nil =>
      refine ⟨[], .nil, fun i => ⟨fun h => absurd h List.not_mem_nil, fun h => ?_⟩, rfl⟩
      exact absurd h.lt_length (Nat.not_lt_zero i)
  | append_singleton pool a ih =>
      obtain ⟨places, hascending, hplaces, hentries⟩ := ih
      have hbelow : ∀ i ∈ places, i < pool.length := fun i hi => ((hplaces i).mp hi).lt_length
      have hearlier : places.map ((pool ++ [a])[·]?) = (poolOf targets pool).map some := by
        rw [← hentries]
        exact List.map_congr_left fun i hi => List.getElem?_append_left (hbelow i hi)
      by_cases hadds : Adds targets pool a
      · refine ⟨places ++ [pool.length], ?_, fun i => ?_, ?_⟩
        · refine List.pairwise_append.mpr ⟨hascending, List.pairwise_singleton _ _, ?_⟩
          rintro i hi j hj
          rw [List.mem_singleton.mp hj]
          exact hbelow i hi
        · rw [addsAt_concat_iff, List.mem_append, List.mem_singleton, hplaces, and_iff_left hadds]
        · rw [poolOf_concat hadds, List.map_append, List.map_append, hearlier, List.map_singleton,
            List.map_singleton, List.getElem?_concat_length]
      · refine ⟨places, hascending, fun i => ?_, ?_⟩
        · rw [addsAt_concat_iff, hplaces, or_iff_left fun h => hadds h.2]
        · rw [poolOf_concat_of_not hadds, hearlier]

theorem poolOf_resolved : Resolved targets pool (poolOf targets pool) where
  places := exists_places targets pool
  sublist := poolOf_sublist targets pool
  nodup := nodup_firstEntries [] _
  ids_iff := mem_ids_poolOf_iff targets pool

end Pools

/-! ## 4. Targets -/

/-- **Targets that no pond comes first of come to the first wanted entry of every id**, in the order
    of the pool, whose ids may be repeated. They come to the same in another order and repeated, and
    for what they have come to; two lists of targets put together come to the ids of both. -/
theorem resolve_resolved {targets : List Target} (h : Unponded targets) (pool : List Agent) :
    ∃ out, resolve targets pool = .agents out ∧ Resolved targets pool out ∧
      (∀ others, Unponded others → (∀ t, t ∈ others ↔ t ∈ targets) →
        resolve others pool = .agents out) ∧
      resolve targets out = .agents out ∧
      ∀ more, Unponded more → ∃ further both, resolve more pool = .agents further ∧
        resolve (targets ++ more) pool = .agents both ∧
        ∀ id, id ∈ both.map Agent.userId ↔
          id ∈ out.map Agent.userId ∨ id ∈ further.map Agent.userId := by
  refine ⟨poolOf targets pool, resolve_of_unponded h pool, poolOf_resolved targets pool, ?_, ?_, ?_⟩
  · intro others hothers hsame
    rw [resolve_of_unponded hothers, poolOf_congr hsame]
  · rw [resolve_of_unponded h, poolOf_poolOf]
  · intro more hmore
    refine ⟨poolOf more pool, poolOf (targets ++ more) pool, resolve_of_unponded hmore pool,
      resolve_of_unponded (h.append hmore) pool, fun id => ?_⟩
    simp only [mem_ids_poolOf_iff, named_append_iff, and_or_left, exists_or]

/-- Ann stands in the pool three times, first on another team: what is left is her first entry on
    the team, and not the first of all. Nothing changes where the targets are turned round and one
    of them is repeated. -/
theorem resolve_resolved_snapshots :
    let targets : List Target := [.team "east" .score, .agents ["bob"]]
    let ann := Example.agent "ann" 2 none
    let bob := { Example.agent "bob" 1 none with teamId := none }
    let pool := [{ ann with teamId := some "west" }, bob, ann, { ann with activePipeline := 7 },
      { Example.agent "cleo" 0 none with teamId := some "west" }]
    Unponded targets ∧ resolve targets pool = .agents [bob, ann] ∧
      Resolved targets pool [bob, ann] ∧
      resolve (.agents ["bob"] :: targets.reverse) pool = .agents [bob, ann] ∧
      resolve targets [bob, ann] = .agents [bob, ann] := by
  intro targets ann bob pool
  have hteam : Unponded targets := fun id rest h => nomatch (List.cons.inj h).1
  have hagent : Unponded (.agents ["bob"] :: targets.reverse) :=
    fun id rest h => nomatch (List.cons.inj h).1
  have hsame : ∀ t, t ∈ Target.agents ["bob"] :: targets.reverse ↔ t ∈ targets := by
    simp [targets, or_comm]
  obtain ⟨out, hout, hresolved, hrelisted, hagain, -⟩ := resolve_resolved hteam pool
  have hpool : resolve targets pool = .agents [bob, ann] := rfl
  obtain rfl : [bob, ann] = out := Resolution.agents.inj (hpool.symm.trans hout)
  exact ⟨hteam, hpool, hresolved, hrelisted _ hagent hsame, hagain⟩

end LeadRouting
