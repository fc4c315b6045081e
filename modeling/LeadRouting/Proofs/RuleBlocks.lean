import LeadRouting.Proofs.SoundRules
import LeadRouting.Time.ListedZone
import Mathlib.Data.Finset.Card
import Mathlib.Data.List.Induction

/-!
# Findings rule by rule

All rules of a set add to one list of findings, and what has been seen of the ids goes along. This
file says that a rule adds its own BLOCK to the list: what it would give if it stood alone, and
besides at most that its id has been used before. No other rule takes anything away from it.

* `Rule.block source earlier r` -- what a rule gives behind others, `RuleSet.blocks` -- the blocks of a
  set in its order;
* `Rule.listFindings_concat` -- a rule at the end adds its block and leaves all else as it is; by
  induction from the end the findings are the blocks (`Rule.listFindings_eq`);
* `Unrepeated`, `Rule.unrepeated_findings` -- no rule says on its own that an id has been used before,
  so `Rule.countP_listFindings`: this is said as often as an id is used again;
* `RuleSet.blocks_of_nodup` -- where no id is used again a block depends on its rule alone;
* **`RuleSet.findings_by_rule`** -- all of this of the findings of a set.
-/

namespace LeadRouting

/-! ## 1. Blocks -/

/-- A rule of the source has no id. -/
def Finding.noId (source : String) : Finding := .critical source "id" "Rule missing id"

/-- The id of a rule has been used before. -/
def Finding.repeatedId (id : String) : Finding :=
  ⟨.duplicate, .critical, id, some "id", "Duplicate rule id"⟩

/-- What a rule gives behind others: **what it gives alone**, and before that whether its id has been
    used. A rule without an id is not looked at. -/
def Rule.block [Zones] (source : String) (earlier : List Rule) (r : Rule) : List Finding :=
  if Text.blank r.id then [.noId source]
  else findIf (earlier.any fun q => q.id = r.id) (.repeatedId r.id) ++ RuleSet.findings source ⟨[r]⟩

namespace RuleSet

variable [Zones]

/-- The blocks of the rules, each behind the rules in front of it. -/
def blocks (source : String) (s : RuleSet) : List (List Finding) :=
  s.rules.mapIdx fun n r => r.block source (s.rules.take n)

/-- The ids of the rules that have one. -/
def ids (s : RuleSet) : List String := (s.rules.map Rule.id).filter fun id => !Text.blank id

theorem ids_concat (rules : List Rule) (r : Rule) :
    ids ⟨rules ++ [r]⟩ = ids ⟨rules⟩ ++ if Text.blank r.id then [] else [r.id] := by
  unfold ids
  rw [List.map_append, List.filter_append]
  cases h : Text.blank r.id <;> simp [h]

theorem mem_ids_iff {rules : List Rule} {id : String} (h : Text.blank id = false) :
    id ∈ ids ⟨rules⟩ ↔ (rules.any fun q => q.id = id) = true := by
  unfold ids
  simp [List.mem_filter, h]

theorem not_mem_ids_of_blank {rules : List Rule} {id : String} (h : Text.blank id = true) :
    id ∉ ids ⟨rules⟩ := fun hmem => by
  have hfilled := (List.mem_filter.mp hmem).2
  rw [h] at hfilled
  cases hfilled

theorem blocks_concat (source : String) (rules : List Rule) (r : Rule) :
    blocks source ⟨rules ++ [r]⟩ = blocks source ⟨rules⟩ ++ [r.block source rules] := by
  unfold blocks
  rw [List.mapIdx_concat, List.take_left]
  refine congrArg (· ++ _) (List.mapIdx_eq_mapIdx_iff.mpr fun n hn => ?_)
  rw [List.take_append_of_le_length (Nat.le_of_lt hn)]

theorem findings_of_ne_nil (source : String) {rules : List Rule} (h : rules ≠ []) :
    findings source ⟨rules⟩ = Rule.listFindings source [] rules := by
  unfold findings
  rw [if_neg (mt List.isEmpty_iff.mp h)]

end RuleSet

namespace Rule

variable [Zones]

theorem findings_alone (source : String) {r : Rule} (h : Text.blank r.id = false) :
    RuleSet.findings source ⟨[r]⟩ = r.findings := by
  rw [RuleSet.findings_of_ne_nil source (List.cons_ne_nil r [])]
  simp [listFindings, h]

/-! ## 2. One more rule -/

/-- **A rule at the end adds its block**, and leaves the findings of the others as they are. -/
theorem listFindings_concat_seen (source : String) (seen : List String) (rules : List Rule)
    (r : Rule) :
    listFindings source seen (rules ++ [r]) = listFindings source seen rules ++
      if Text.blank r.id then [.noId source]
      else findIf (seen.contains r.id || rules.any fun q => q.id = r.id) (.repeatedId r.id) ++
        r.findings := by
  induction rules generalizing seen with
  | nil => simp [listFindings, Finding.noId, Finding.repeatedId]
  | cons q rest ih =>
      rw [List.cons_append]
      unfold listFindings
      by_cases hq : Text.blank q.id = true
      · rw [if_pos hq, if_pos hq, ih, List.cons_append]
        by_cases hr : Text.blank r.id = true
        · rw [if_pos hr, if_pos hr]
        · -- an id that is blank is not the id of a rule that has one
          have hne : q.id ≠ r.id := fun heq => hr (heq ▸ hq)
          rw [if_neg hr, if_neg hr, List.any_cons, decide_eq_false hne, Bool.false_or]
      · have hid : (r.id == q.id) = decide (q.id = r.id) := decide_eq_decide.mpr eq_comm
        rw [if_neg hq, if_neg hq, ih, List.append_assoc, List.append_assoc, List.append_assoc,
          List.contains_cons, hid, List.any_cons, Bool.or_assoc, Bool.or_left_comm]

theorem listFindings_concat (source : String) (rules : List Rule) (r : Rule) :
    listFindings source [] (rules ++ [r]) = listFindings source [] rules ++ r.block source rules := by
  rw [listFindings_concat_seen]
  unfold block
  cases hr : Text.blank r.id with
  | true => rfl
  | false => rw [findings_alone source hr, List.contains_nil, Bool.false_or]

/-- **The findings are the blocks**, rule by rule. -/
theorem listFindings_eq (source : String) (rules : List Rule) :
    listFindings source [] rules = (RuleSet.blocks source ⟨rules⟩).flatten := by
  induction rules using List.reverseRecOn with
  | nil => rfl
  | append_singleton rules r ih =>
      rw [listFindings_concat, RuleSet.blocks_concat, List.flatten_concat, ih]

end Rule

/-! ## 3. Ids that are used again -/

/-- No finding says that an id has been used before. -/
def Unrepeated (fs : List Finding) : Prop := ∀ f ∈ fs, f.fault ≠ .duplicate

@[simp] theorem unrepeated_append (fs gs : List Finding) :
    Unrepeated (fs ++ gs) ↔ Unrepeated fs ∧ Unrepeated gs := List.forall_mem_append

@[simp] theorem unrepeated_flatMap {α : Type} (f : α → List Finding) (xs : List α) :
    Unrepeated (xs.flatMap f) ↔ ∀ x ∈ xs, Unrepeated (f x) := List.forall_mem_flatMap

@[simp] theorem unrepeated_findIn {α : Type} (f : α → List Finding) (a : Option α) :
    Unrepeated (findIn f a) ↔ ∀ x ∈ a, Unrepeated (f x) := by
  cases a with
  | none => exact iff_of_true nofun nofun
  | some x => simp [findIn]

@[simp] theorem Finding.fault_error (fault : Fault) (source field message : String) :
    (Finding.error fault source field message).fault = fault := rfl

theorem unrepeated_findIf (wrong : Bool) {f : Finding} (h : f.fault ≠ .duplicate) :
    Unrepeated (findIf wrong f) := by
  intro g hg
  obtain ⟨-, rfl⟩ := mem_findIf.mp hg
  exact h

@[simp] theorem unrepeated_warning (wrong : Bool) (source field message : String) :
    Unrepeated (findIf wrong (.warning source field message)) := unrepeated_findIf wrong nofun

@[simp] theorem unrepeated_error (wrong : Bool) {fault : Fault} (h : fault ≠ .duplicate)
    (source field message : String) :
    Unrepeated (findIf wrong (.error fault source field message)) := unrepeated_findIf wrong h

@[simp] theorem unrepeated_reason (f : String → Finding) (reason : Option String) :
    Unrepeated (reason.map f).toList ↔ ∀ s ∈ reason, (f s).fault ≠ .duplicate := by
  cases reason with
  | none => exact iff_of_true nofun nofun
  | some s => simp [Unrepeated]

section Parts

variable (source : String)

theorem Target.unrepeated_listFindings (targets : List Target) :
    Unrepeated (listFindings source targets) := by
  have hone : ∀ e : Target × Nat, Unrepeated (e.1.findings source e.2) := by
    rintro ⟨t, i⟩
    cases t <;> simp [findings]
  unfold listFindings
  split
  · exact fun f hf => List.mem_singleton.mp hf ▸ nofun
  · simp [hone]

theorem Window.unrepeated_listFindings [Zones] (ws : List Window) :
    Unrepeated (listFindings source ws) := by
  simp [listFindings, findings]

theorem FieldTest.unrepeated_listFindings (ts : List FieldTest) :
    Unrepeated (listFindings source ts) := by
  have hone : ∀ e : FieldTest × Nat, Unrepeated (e.1.findings source e.2) := by
    rintro ⟨t, i⟩
    unfold findings valueFindings
    split <;> simp
  simp [listFindings, hone]

theorem Conditions.unrepeated_findings [Zones] (c : Conditions) :
    Unrepeated (c.findings source) := by
  simp [findings, Geography.findings, PriceBand.findings, SourceFilter.findings,
    Window.unrepeated_listFindings, Demographics.findings, MemberFilter.findings,
    FieldTest.unrepeated_listFindings]

theorem Policy.unrepeated_findings (field : String) (p : Policy) :
    Unrepeated (p.findings source field) := by
  simp [findings]

end Parts

namespace Rule

/-- **No rule says on its own that an id has been used before.** -/
theorem unrepeated_findings [Zones] (r : Rule) : Unrepeated r.findings := by
  simp [findings, Target.unrepeated_listFindings, Conditions.unrepeated_findings,
    Policy.unrepeated_findings]

theorem countP_of_unrepeated {fs : List Finding} (h : Unrepeated fs) :
    fs.countP (fun f => f.fault = .duplicate) = 0 :=
  List.countP_eq_zero.mpr fun f hf => mt of_decide_eq_true (h f hf)

/-- A block says so where the rule has an id that was used before. -/
theorem countP_block [Zones] (source : String) (earlier : List Rule) (r : Rule) :
    (r.block source earlier).countP (fun f => f.fault = .duplicate) =
      if r.id ∈ RuleSet.ids ⟨earlier⟩ then 1 else 0 := by
  unfold block
  cases hr : Text.blank r.id with
  | true =>
      rw [if_neg (RuleSet.not_mem_ids_of_blank hr)]
      rfl
  | false =>
      simp only [Bool.false_eq_true, if_false, RuleSet.mem_ids_iff hr]
      rw [findings_alone source hr, List.countP_append, countP_of_unrepeated r.unrepeated_findings]
      cases earlier.any fun q => q.id = r.id <;> rfl

theorem card_toFinset_concat (ids : List String) (id : String) :
    (ids ++ [id]).toFinset.card = ids.toFinset.card + if id ∈ ids then 0 else 1 := by
  have hinsert : (ids ++ [id]).toFinset = insert id ids.toFinset := by
    ext x
    simp
  rw [hinsert]
  split
  · rename_i hmem
    exact Finset.card_insert_of_mem (List.mem_toFinset.mpr hmem)
  · rename_i hnew
    exact Finset.card_insert_of_notMem (mt List.mem_toFinset.mp hnew)

/-- **That an id has been used before is said as often as an id is used again.** -/
theorem countP_listFindings [Zones] (source : String) (rules : List Rule) :
    (listFindings source [] rules).countP (fun f => f.fault = .duplicate) +
      (RuleSet.ids ⟨rules⟩).toFinset.card = (RuleSet.ids ⟨rules⟩).length := by
  induction rules using List.reverseRecOn with
  | nil => rfl
  | append_singleton rules r ih =>
      rw [listFindings_concat, List.countP_append, countP_block, RuleSet.ids_concat]
      cases hr : Text.blank r.id with
      | true =>
          have hout : r.id ∉ RuleSet.ids ⟨rules⟩ := RuleSet.not_mem_ids_of_blank hr
          simp only [if_true, if_neg hout, List.append_nil]
          exact ih
      | false =>
          have hcard := card_toFinset_concat (RuleSet.ids ⟨rules⟩) r.id
          rw [if_neg Bool.false_ne_true, hcard, List.length_append, List.length_singleton]
          split <;> omega

/-! ## 4. Where no id is used again -/

/-- A rule whose id is new gives what it gives in front. -/
theorem block_of_not_mem [Zones] (source : String) {earlier : List Rule} {r : Rule}
    (h : r.id ∉ RuleSet.ids ⟨earlier⟩) : r.block source earlier = r.block source [] := by
  unfold block
  cases hr : Text.blank r.id with
  | true => rfl
  | false => rw [RuleSet.mem_ids_iff hr, Bool.not_eq_true] at h; rw [h, List.any_nil]

end Rule

namespace RuleSet

section Blocks

variable [Zones]

/-- **Without ids that are used again a block depends on its rule alone.** -/
theorem blocks_of_nodup (source : String) {rules : List Rule} (h : (ids ⟨rules⟩).Nodup) :
    blocks source ⟨rules⟩ = rules.map (Rule.block source []) := by
  induction rules using List.reverseRecOn with
  | nil => rfl
  | append_singleton rules r ih =>
      rw [ids_concat, List.nodup_append] at h
      obtain ⟨hnodup, -, hnew⟩ := h
      have hfresh : r.id ∉ ids ⟨rules⟩ := by
        cases hr : Text.blank r.id with
        | true => exact not_mem_ids_of_blank hr
        | false =>
            rw [hr] at hnew
            exact fun hmem => hnew r.id hmem r.id List.mem_cons_self rfl
      rw [blocks_concat, ih hnodup, Rule.block_of_not_mem source hfresh, List.map_append]
      rfl

theorem ids_perm {rules rules' : List Rule} (h : rules'.Perm rules) :
    (ids ⟨rules'⟩).Perm (ids ⟨rules⟩) := (h.map Rule.id).filter _

/-- **Every rule gives its own findings, and none is lost.** The findings of a set that is not empty
    are the blocks of its rules in their order. That an id has been used before is said as often as
    there are more rules with an id than different ids. A rule at the end leaves the findings of the
    others as they are and adds its block behind them. Where no id is used again, rules in another
    order give the same blocks in that order. -/
theorem findings_by_rule (source : String) {s : RuleSet} (h : s.rules ≠ []) :
    s.findings source = (s.blocks source).flatten ∧
    (s.findings source).countP (fun f => f.fault = .duplicate) + s.ids.toFinset.card =
      s.ids.length ∧
    (∀ r, findings source ⟨s.rules ++ [r]⟩ = s.findings source ++ r.block source s.rules) ∧
    (s.ids.Nodup → ∀ rules, rules.Perm s.rules →
      findings source ⟨rules⟩ = (rules.map (Rule.block source [])).flatten ∧
        (blocks source ⟨rules⟩).Perm (s.blocks source)) := by
  obtain ⟨rules⟩ := s
  have hne : rules ≠ [] := h
  rw [findings_of_ne_nil source hne]
  refine ⟨Rule.listFindings_eq source rules, Rule.countP_listFindings source rules, fun r => ?_,
    fun hnodup rules' hperm => ?_⟩
  · rw [findings_of_ne_nil source (List.append_ne_nil_of_left_ne_nil hne _)]
    exact Rule.listFindings_concat source rules r
  · have hnodup' : (ids ⟨rules'⟩).Nodup := (ids_perm hperm).nodup_iff.mpr hnodup
    have hne' : rules' ≠ [] := fun hnil => hne (hnil ▸ hperm).nil_eq.symm
    refine ⟨?_, ?_⟩
    · rw [findings_of_ne_nil source hne', Rule.listFindings_eq, blocks_of_nodup source hnodup']
    · rw [blocks_of_nodup source hnodup', blocks_of_nodup source hnodup]
      exact hperm.map _

end Blocks

/-- A set that names the east twice, the second time without a target, and has a rule without an id
    in between: the target of that one is wrong too, but nobody looks at it. A rule for the west at
    the end adds a finding of its own, and stands in either order beside the one for the east. -/
theorem findings_by_rule_east :
    let east : Rule := ⟨"east", none, 1, true, none, [.pond "shared"], none, none⟩
    let nameless : Rule := { east with id := " ", targets := [.pond ""] }
    let again : Rule := { east with targets := [] }
    let west : Rule := { again with id := "west" }
    let s : RuleSet := ⟨[east, nameless, again]⟩
    let untargeted := fun id => Finding.critical id "targets" "Rule has no targets"
    s.rules ≠ [] ∧
      s.findings "rules.yaml" = [.noId "rules.yaml", .repeatedId "east", untargeted "east"] ∧
      (s.findings "rules.yaml").countP (fun f => f.fault = .duplicate) = 1 ∧
      findings "rules.yaml" ⟨[east, nameless, again, west]⟩ =
        s.findings "rules.yaml" ++ [untargeted "west"] ∧
      (ids ⟨[again, west]⟩).Nodup ∧ [west, again].Perm [again, west] ∧
      findings "rules.yaml" ⟨[west, again]⟩ = [untargeted "west", untargeted "east"] := by
  intro east nameless again west s untargeted
  have hne : s.rules ≠ [] := List.cons_ne_nil _ _
  obtain ⟨hblocks, hcount, happend, -⟩ := findings_by_rule "rules.yaml" hne
  obtain ⟨-, -, -, horder⟩ := findings_by_rule "rules.yaml" (s := ⟨[again, west]⟩)
    (List.cons_ne_nil _ _)
  have hids : s.ids.toFinset.card = 1 ∧ s.ids.length = 2 := by decide +kernel
  have hwest : west.block "rules.yaml" s.rules = [untargeted "west"] := by decide +kernel
  have hnodup : (ids ⟨[again, west]⟩).Nodup := by decide +kernel
  have hswap : [west, again].Perm [again, west] := .swap _ _ _
  exact ⟨hne, hblocks.trans (by decide +kernel), by omega,
    (happend west).trans (congrArg _ hwest), hnodup, hswap,
    (horder hnodup _ hswap).1.trans (by decide +kernel)⟩

end RuleSet

end LeadRouting
