import LeadRouting.Proofs.Categories
import LeadRouting.Proofs.FirstMatch
import LeadRouting.Proofs.Separation
import LeadRouting.Rule.Finding

/-!
# What is warned about

A warning marks a part of a rule that can never have an effect, and an author who sees one deletes
that part. The findings, the conditions and the targets each have a view of their own of what is
empty. This file says that they agree: deleting what is warned about changes nothing.

* `warned` -- some finding is a warning; `Geography.warned_eq`, `PriceBand.warned_eq`, ... say of
  which parts;
* `Rule.pruned` -- the rule without the parts that are warned about: a geography condition, a price
  band and filters on the person without a value, the values of tests for presence, ponds behind the
  first target and all that stands behind a pond in front;
* `Conditions.passes?_pruned` -- the same categories fail; `Rule.pond?_pruned`, `poolOf_pruned` and
  `Rule.rotatingTeam?_pruned` -- the targets lead to the same pond, or to the same agents and turns;
* `Rule.warned_pruned` -- nothing is left to warn about;
* **`Rule.pruned_unchanged`** -- so the rule matches the same leads and does the same with them.
-/

namespace LeadRouting

/-! ## 1. Warnings -/

/-- Some finding is a warning. -/
def warned (fs : List Finding) : Bool := fs.any fun f => f.severity = .warning

@[simp] theorem warned_append (fs gs : List Finding) :
    warned (fs ++ gs) = (warned fs || warned gs) := List.any_append

theorem warned_findIf (wrong : Bool) (f : Finding) :
    warned (findIf wrong f) = (wrong && f.severity = .warning) := by
  cases wrong with
  | false => rfl
  | true => exact Bool.or_false _

@[simp] theorem warned_findIf_warning (wrong : Bool) (source field message : String) :
    warned (findIf wrong (.warning source field message)) = wrong := by
  rw [warned_findIf]
  exact Bool.and_true wrong

@[simp] theorem warned_findIf_error (wrong : Bool) (fault : Fault)
    (source field message : String) :
    warned (findIf wrong (.error fault source field message)) = false := by
  rw [warned_findIf]
  exact Bool.and_false wrong

/-- A reason that is reported as an error is no warning. -/
theorem warned_map_error {f : String → Finding} (h : ∀ s, (f s).severity = .error)
    (reason : Option String) : warned (reason.map f).toList = false := by
  cases reason with
  | none => rfl
  | some s =>
      have hwarned : warned [f s] = ((f s).severity = .warning || false) := rfl
      rw [Option.map_some, Option.toList_some, hwarned, h]
      rfl

theorem warned_flatMap {α : Type} (f : α → List Finding) (xs : List α) :
    warned (xs.flatMap f) = xs.any fun x => warned (f x) := List.any_flatMap

theorem warned_findIn {α : Type} (f : α → List Finding) (a : Option α) :
    warned (findIn f a) = a.any fun x => warned (f x) := by
  cases a <;> rfl

section Parts

variable (source : String)

theorem Geography.warned_eq (g : Geography) : warned (g.findings source) =
    (g.included.all Places.isEmpty && g.excluded.all Places.isEmpty) :=
  warned_findIf_warning _ _ _ _

theorem PriceBand.warned_eq (b : PriceBand) : warned (b.findings source) = !b.bounded := by
  unfold findings
  rw [warned_append, warned_append, warned_map_error fun s => rfl, warned_findIf_error,
    warned_findIf_warning, Bool.false_or, Bool.false_or]

theorem SourceFilter.warned_eq (f : SourceFilter) : warned (f.findings source) = false :=
  warned_map_error (fun _ => rfl) _

theorem Window.warned_eq [Zones] (windows : List Window) :
    warned (Window.listFindings source windows) = false := by
  unfold listFindings findings
  rw [warned_append, warned_findIf_error, warned_flatMap, Bool.false_or, List.any_eq_false]
  intro e _
  rw [warned_append, warned_findIf_error, warned_findIf_error]
  exact Bool.false_ne_true

theorem MemberFilter.warned_eq (name : String) (f : Option MemberFilter) :
    warned (findings source name f) = f.any isEmpty := warned_findIf_warning _ _ _ _

theorem Demographics.warned_eq (d : Demographics) : warned (d.findings source) =
    (d.tags.any MemberFilter.isEmpty || d.languages.any MemberFilter.isEmpty ||
      d.ethnicities.any MemberFilter.isEmpty) := by
  unfold findings
  rw [warned_append, warned_append, warned_append, warned_map_error fun s => rfl,
    MemberFilter.warned_eq, MemberFilter.warned_eq, MemberFilter.warned_eq, Bool.false_or]

/-- A test is warned about for a value that it does not look at. -/
theorem FieldTest.warned_eq (i : Nat) (t : FieldTest) :
    warned (t.findings source i) = (t.operator.asksPresence && !nullValue t.value) := by
  unfold findings valueFindings
  rw [warned_append, warned_findIf_error, Bool.false_or]
  cases t.operator.asksPresence with
  | true => exact warned_findIf_warning _ _ _ _
  | false =>
      simp only [Bool.false_eq_true, if_false, warned_append, warned_findIf_error, Bool.or_false,
        Bool.false_and]

/-- A target is warned about for being a pond that is not the first one. -/
theorem Target.warned_eq (i : Nat) (t : Target) :
    warned (t.findings source i) = (t.isPond && decide (0 < i)) := by
  cases t with
  | agents ids => simp only [findings, warned_append, warned_findIf_error, Bool.or_false]; rfl
  | team id strategy => exact warned_findIf_error _ _ _ _ _
  | pond id => simp only [findings, warned_append, warned_findIf_error, warned_findIf_warning]; rfl

end Parts

/-! ## 2. Without what is warned about -/

section Pruning

variable (source : String)

/-- A filter under a name, unless it is warned about. -/
def MemberFilter.pruned (name : String) (f : Option MemberFilter) : Option MemberFilter :=
  if warned (findings source name f) then none else f

/-- The condition without the filters that are warned about. -/
def Demographics.pruned (d : Demographics) : Demographics :=
  { d with
    tags := MemberFilter.pruned source "tags" d.tags
    languages := MemberFilter.pruned source "languages" d.languages
    ethnicities := MemberFilter.pruned source "ethnicities" d.ethnicities }

/-- The test at a place of the list without its value, if that is warned about. -/
def FieldTest.pruned (i : Nat) (t : FieldTest) : FieldTest :=
  if warned (t.findings source i) then { t with value := .null } else t

/-- The conditions without what is warned about. -/
def Conditions.pruned [Zones] (c : Conditions) : Conditions :=
  { c with
    geography := c.geography.filter fun g => !warned (g.findings source)
    priceBand := c.priceBand.filter fun b => !warned (b.findings source)
    demographics := c.demographics.map (Demographics.pruned source)
    customFields := c.customFields.map fun ts => ts.zipIdx.map fun e => e.1.pruned source e.2 }

/-- The targets without what is warned about: the ponds behind the first target, or all that stands
    behind a pond in front. -/
def Target.pruned (targets : List Target) : List Target :=
  if pondBeforeOthers targets then targets.take 1
  else (targets.zipIdx.filter fun e => !warned (e.1.findings source e.2)).map Prod.fst

end Pruning

/-- The rule without what is warned about as having no effect. -/
def Rule.pruned [Zones] (r : Rule) : Rule :=
  { r with
    conditions := r.conditions.map (Conditions.pruned r.id)
    targets := Target.pruned r.id r.targets }

example : Target.pruned "east" [.team "east" .score, .pond "shared", .team "west" .roundRobin] =
    [.team "east" .score, .team "west" .roundRobin] := by decide

/-! ## 3. The conditions -/

/-- A geography condition that is warned about passes everywhere. -/
theorem Geography.passes_of_warned {source : String} {g : Geography}
    (h : warned (g.findings source) = true) (listing : Option Listing) :
    (g.failure? listing).isNone = true := by
  rw [warned_eq, Bool.and_eq_true, Option.all_eq_true, Option.all_eq_true] at h
  rw [failure?_isNone, Bool.and_eq_true, Option.all_eq_true, Bool.not_eq_true', Option.any_eq_false]
  refine ⟨fun p hp => ?_, fun p hp => p.matching?_of_isEmpty (h.2 p hp) listing⟩
  exact Bool.or_eq_true_iff.mpr (.inl (h.1 p hp))

/-- A price band that is warned about passes everywhere. -/
theorem PriceBand.passes_of_warned {source : String} {b : PriceBand}
    (h : warned (b.findings source) = true) (listing : Option Listing) :
    (b.failure? listing).isNone = true := by
  rw [warned_eq] at h
  rw [failure?_isNone, h, Bool.true_or]

/-- A filter that is warned about gives no reason to fail. -/
theorem Demographics.filterFailure?_pruned (source name heading : String)
    (f : Option MemberFilter) (values : List String) :
    filterFailure? heading (MemberFilter.pruned source name f) values =
      filterFailure? heading f values := by
  unfold MemberFilter.pruned
  split
  · rename_i hwarned
    rw [MemberFilter.warned_eq, Option.any_eq_true] at hwarned
    obtain ⟨g, rfl, hempty⟩ := hwarned
    obtain ⟨hincluded, hexcluded⟩ := Bool.and_eq_true_iff.mp hempty
    have hpass : g.failure? values = none := by
      rw [← Option.isNone_iff_eq_none, MemberFilter.failure?_isNone, hincluded,
        List.isEmpty_iff.mp hexcluded]
      rfl
    unfold filterFailure?
    rw [Option.bind_some, hpass]
    rfl
  · rfl

theorem Demographics.failure?_pruned (source : String) (d : Demographics) (p : Person) :
    (d.pruned source).failure? p = d.failure? p := by
  unfold failure? pruned ageFailure? outside?
  simp only [filterFailure?_pruned]

/-- The value of a test that is warned about does not count. -/
theorem FieldTest.passes_pruned (source : String) (i : Nat) (t : FieldTest)
    (fields : List (String × Json)) : (t.pruned source i).passes fields = t.passes fields := by
  unfold pruned
  split
  · rename_i hwarned
    rw [warned_eq, Bool.and_eq_true] at hwarned
    have hpresence : ∀ (op : Operator) (field : Option Json) (a b : Json),
        op.asksPresence = true → op.holds field a = op.holds field b := by
      intro op field a b hop
      cases op with
      | present | absent => rfl
      | _ => cases hop
    exact hpresence t.operator _ _ _ hwarned.1
  · rfl

theorem FieldTest.all_passes_pruned (source : String) (ts : List FieldTest)
    (fields : List (String × Json)) :
    ((ts.zipIdx.map fun e => e.1.pruned source e.2).all fun t => t.passes fields) =
      ts.all fun t => t.passes fields := by
  rw [List.all_map]
  have hpair : (fun t : FieldTest => t.passes fields) ∘ (fun e => e.1.pruned source e.2) =
      (fun t : FieldTest => t.passes fields) ∘ Prod.fst :=
    funext fun e => passes_pruned source e.2 e.1 fields
  rw [hpair, ← List.all_map, List.zipIdx_map_fst]

/-- What is left of a condition fails where the condition does, if what goes never fails. -/
theorem map_filter_eq_some_false_iff {α : Type} {keep p : α → Bool} (a : Option α)
    (h : ∀ x, keep x = false → p x = true) :
    (a.filter keep).map p = some false ↔ a.map p = some false := by
  cases a with
  | none => rfl
  | some x =>
      rw [Option.filter_some]
      cases hkeep : keep x with
      | true => rfl
      | false =>
          have hpass := h x hkeep
          simp [hpass]

/-- **Conditions without what is warned about fail in the same categories.** -/
theorem Conditions.passes?_pruned [Zones] (source : String) (c : Conditions) (ctx : Context)
    (k : Category) :
    (c.pruned source).passes? ctx k = some false ↔ c.passes? ctx k = some false := by
  unfold passes? outcome? pruned
  cases k with
  | geography =>
      simp only [Option.map_map]
      refine map_filter_eq_some_false_iff c.geography fun g hg => ?_
      exact g.passes_of_warned (by simpa using hg) ctx.listing
  | priceBand =>
      simp only [Option.map_map]
      refine map_filter_eq_some_false_iff c.priceBand fun b hb => ?_
      exact b.passes_of_warned (by simpa using hb) ctx.listing
  | demographics =>
      simp only [Option.map_map, Function.comp_def, Demographics.failure?_pruned]
  | customFields =>
      simp only [Option.map_map, Function.comp_def, FieldTest.failure?_isNone,
        FieldTest.all_passes_pruned]
  | sources | consent | representation | windows => rfl

theorem Rule.matched_pruned [Zones] (r : Rule) (ctx : Context) :
    (r.pruned.evaluate ctx).matched = (r.evaluate ctx).matched := by
  unfold Rule.evaluate pruned
  cases r.conditions with
  | none => rfl
  | some c =>
      refine Bool.eq_iff_iff.mpr ?_
      rw [Option.map_some, LeadRouting.evaluate, LeadRouting.evaluate,
        Conditions.evaluate_matched_iff, Conditions.evaluate_matched_iff]
      exact forall_congr' fun k => not_congr (c.passes?_pruned r.id ctx k)

/-! ## 4. The targets -/

/-- Behind the first place every pond is warned about and nothing else is. -/
theorem Target.filter_zipIdx (source : String) (targets : List Target) {n : Nat} (h : 0 < n) :
    ((targets.zipIdx n).filter fun e => !warned (e.1.findings source e.2)).map Prod.fst =
      targets.filter fun t => !t.isPond := by
  induction targets generalizing n with
  | nil => rfl
  | cons t rest ih =>
      have hplace : warned (t.findings source n) = t.isPond := by
        rw [warned_eq, decide_eq_true h, Bool.and_true]
      rw [List.zipIdx_cons, List.filter_cons, List.filter_cons, hplace, ← ih (Nat.succ_pos n)]
      cases t.isPond <;> rfl

/-- Where no pond stands in front, what is left are the targets that are no ponds. -/
theorem Target.pruned_of_agents (source : String) {targets : List Target}
    (h : ∀ id rest, targets ≠ .pond id :: rest) :
    pruned source targets = targets.filter fun t => !t.isPond := by
  cases targets with
  | nil => rfl
  | cons t rest =>
      have hfirst : t.isPond = false := by
        cases t with
        | pond id => exact absurd rfl (h id rest)
        | agents ids | team id strategy => rfl
      have hothers : pondBeforeOthers (t :: rest) = false := by
        cases t with
        | pond id => cases hfirst
        | agents ids | team id strategy => rfl
      have hwarned : warned (t.findings source 0) = false := by
        rw [warned_eq, hfirst, Bool.false_and]
      unfold pruned
      rw [hothers, List.zipIdx_cons, List.filter_cons, List.filter_cons, hwarned, hfirst]
      exact congrArg (t :: ·) (filter_zipIdx source rest Nat.one_pos)

/-- Where a pond stands in front, it alone is left. -/
theorem Target.pruned_of_pond (source id : String) (rest : List Target) :
    pruned source (.pond id :: rest) = [.pond id] := by
  cases rest with
  | nil => exact congrArg (List.map Prod.fst) (List.filter_cons_of_pos
      (by rw [warned_eq, decide_eq_false (Nat.lt_irrefl 0), Bool.and_false]; rfl))
  | cons t others => rfl

namespace Rule

variable [Zones] (r : Rule)

/-- **The targets that are left lead to the same pond, or to none.** -/
theorem pond?_pruned : r.pruned.pond? = r.pond? := by
  cases hpond : r.pond? with
  | some id =>
      obtain ⟨rest, htargets⟩ := pond?_eq_some_iff.mp hpond
      have hleft : r.pruned.targets = [.pond id] := by
        unfold pruned
        rw [htargets, Target.pruned_of_pond]
      exact pond?_eq_some_iff.mpr ⟨[], hleft⟩
  | none =>
      have hnone := pond?_eq_none_iff.mp hpond
      have hleft : r.pruned.targets = r.targets.filter fun t => !t.isPond :=
        Target.pruned_of_agents r.id hnone
      refine pond?_eq_none_iff.mpr fun id rest htargets => ?_
      have hmem : Target.pond id ∈ r.targets.filter fun t => !t.isPond := by
        rw [← hleft, htargets]
        exact List.mem_cons_self
      cases (List.mem_filter.mp hmem).2

variable {r}

/-- **The targets that are left take in the same agents.** -/
theorem poolOf_pruned (h : r.pond? = none) (pool : List Agent) :
    poolOf r.pruned.targets pool = poolOf r.targets pool := by
  have hleft : r.pruned.targets = r.targets.filter fun t => !t.isPond :=
    Target.pruned_of_agents r.id (pond?_eq_none_iff.mp h)
  have hincludes : ∀ a : Agent, (r.targets.filter fun t => !t.isPond).any (fun t => t.includes a) =
      r.targets.any fun t => t.includes a := by
    intro a
    rw [List.any_filter]
    refine congrArg (fun p => r.targets.any p) (funext fun t => ?_)
    cases t with
    | pond id => rfl
    | agents ids | team id strategy => exact Bool.true_and _
  unfold poolOf
  simp only [hleft, hincludes]

/-- **The targets that are left take turns in the same team.** -/
theorem rotatingTeam?_pruned (h : r.pond? = none) :
    r.pruned.rotatingTeam? = r.rotatingTeam? := by
  have hleft : r.pruned.targets = r.targets.filter fun t => !t.isPond :=
    Target.pruned_of_agents r.id (pond?_eq_none_iff.mp h)
  unfold rotatingTeam?
  rw [hleft]
  induction r.targets with
  | nil => rfl
  | cons t rest ih =>
      cases t with
      | pond id => exact ih
      | agents ids => exact ih
      | team id strategy =>
          rw [List.filter_cons_of_pos rfl, List.findSome?_cons, List.findSome?_cons, ih]

end Rule

/-- **The rule does the same with every request.** -/
theorem Router.assign_pruned [Zones] {σ : Type} (router : Router σ) (r : Rule) (q : LeadRequest)
    (s : σ) :
    router.assign r.pruned q s = router.assign r q s := by
  unfold assign
  rw [r.pond?_pruned]
  cases hpond : r.pond? with
  | some id => rfl
  | none =>
      have hnarrowed : router.narrowed r.pruned q = router.narrowed r q := by
        unfold narrowed
        rw [Rule.poolOf_pruned hpond]
        rfl
      have hselect : router.select r.pruned = router.select r := by
        unfold select
        rw [Rule.rotatingTeam?_pruned hpond]
      dsimp only
      rw [hnarrowed, hselect]

/-! ## 5. Nothing left to warn about -/

section Warned

variable (source : String)

/-- Targets are warned about for a pond behind the first place or for what stands behind a pond. -/
theorem Target.warned_listFindings (targets : List Target) :
    warned (listFindings source targets) =
      (targets.zipIdx.any (fun e => e.1.isPond && decide (0 < e.2)) ||
        pondBeforeOthers targets) := by
  cases targets with
  | nil => rfl
  | cons t rest =>
      unfold listFindings
      rw [List.isEmpty_cons, if_neg Bool.false_ne_true, warned_append, warned_flatMap,
        warned_findIf_warning]
      simp only [warned_eq]

theorem Target.warned_pruned (targets : List Target) :
    warned (listFindings source (pruned source targets)) = false := by
  by_cases hpond : ∃ id rest, targets = .pond id :: rest
  · obtain ⟨id, rest, rfl⟩ := hpond
    rw [pruned_of_pond, warned_listFindings]
    rfl
  · have hfirst : ∀ id rest, targets ≠ .pond id :: rest :=
      fun id rest htargets => hpond ⟨id, rest, htargets⟩
    rw [pruned_of_agents source hfirst, warned_listFindings, Bool.or_eq_false_iff]
    constructor
    · rw [List.any_eq_false]
      intro e he
      have hkept := (List.mem_filter.mp (List.fst_mem_of_mem_zipIdx he)).2
      rw [Bool.not_eq_true'] at hkept
      rw [hkept, Bool.false_and]
      exact Bool.false_ne_true
    · cases hleft : targets.filter fun t => !t.isPond with
      | nil => rfl
      | cons t others =>
          have hmem : t ∈ targets.filter fun t => !t.isPond := hleft ▸ List.mem_cons_self
          cases t with
          | pond id => cases (List.mem_filter.mp hmem).2
          | agents ids | team id strategy => rfl

theorem MemberFilter.any_isEmpty_pruned (name : String) (f : Option MemberFilter) :
    (pruned source name f).any isEmpty = false := by
  unfold pruned
  rw [warned_eq]
  cases hempty : f.any isEmpty with
  | true => rfl
  | false => exact hempty

theorem FieldTest.warned_pruned (i j : Nat) (t : FieldTest) :
    warned ((t.pruned source i).findings source j) = false := by
  unfold pruned
  split
  · rw [warned_eq]
    exact Bool.and_false _
  · rename_i hwarned
    rw [warned_eq] at hwarned ⊢
    exact Bool.eq_false_iff.mpr hwarned

theorem FieldTest.warned_listPruned (ts : List FieldTest) :
    warned (listFindings source (ts.zipIdx.map fun e => e.1.pruned source e.2)) = false := by
  unfold listFindings
  rw [warned_flatMap, List.any_eq_false]
  rintro ⟨t, i⟩ he
  obtain ⟨d, -, rfl⟩ := List.mem_map.mp (List.fst_mem_of_mem_zipIdx he)
  exact Bool.eq_false_iff.mp (d.1.warned_pruned source d.2 i)

theorem Conditions.warned_pruned [Zones] (c : Conditions) :
    warned ((c.pruned source).findings source) = false := by
  have hfilter : ∀ {α : Type} (f : α → List Finding) (a : Option α),
      (a.filter fun x => !warned (f x)).any (fun x => warned (f x)) = false := by
    intro α f a
    rw [Option.any_filter]
    cases a with
    | none => rfl
    | some x => exact Bool.not_and_self _
  unfold findings pruned
  simp only [warned_append, warned_findIn, Bool.or_eq_false_iff]
  refine ⟨⟨⟨⟨⟨hfilter _ _, hfilter _ _⟩, ?_⟩, ?_⟩, ?_⟩, ?_⟩
  · cases c.sources with
    | none => rfl
    | some f => exact f.warned_eq source
  · cases c.windows with
    | none => rfl
    | some ws => exact Window.warned_eq source ws
  · cases c.demographics with
    | none => rfl
    | some d =>
        rw [Option.map_some, Option.any_some, Demographics.warned_eq]
        simp only [Demographics.pruned, MemberFilter.any_isEmpty_pruned, Bool.or_false]
  · cases c.customFields with
    | none => rfl
    | some ts => exact FieldTest.warned_listPruned source ts

end Warned

/-- **Nothing is left to warn about** in the targets and the conditions. -/
theorem Rule.warned_pruned [Zones] (r : Rule) :
    warned (Target.listFindings r.id r.pruned.targets ++
      findIn (Conditions.findings r.id) r.pruned.conditions) = false := by
  rw [warned_append, Bool.or_eq_false_iff]
  refine ⟨Target.warned_pruned r.id r.targets, ?_⟩
  rw [warned_findIn]
  unfold pruned
  cases r.conditions with
  | none => rfl
  | some c => exact c.warned_pruned r.id

/-! ## 6. Nothing changes -/

/-- **Deleting what is warned about changes nothing.** The rule that is left gives no warning; it
    matches a context exactly where the rule does; and once it has matched it leads every request
    to the same pond or the same selection, with the same offers to every rotation and the same
    memory. -/
theorem Rule.pruned_unchanged [Zones] (r : Rule) :
    warned (Target.listFindings r.id r.pruned.targets ++
      findIn (Conditions.findings r.id) r.pruned.conditions) = false ∧
    (∀ ctx, (r.pruned.evaluate ctx).matched = (r.evaluate ctx).matched) ∧
    ∀ {σ : Type} (router : Router σ) (ctx : Context) (q : LeadRequest) (s : σ)
        (offers : List Offer),
      (router.decideBy r.pruned ctx q s).1.assignment =
        (router.decideBy r ctx q s).1.assignment ∧
      (router.decideBy r.pruned ctx q s).2 = (router.decideBy r ctx q s).2 ∧
      (router.recorded.decideBy r.pruned ctx q (s, offers)).2 =
        (router.recorded.decideBy r ctx q (s, offers)).2 := by
  refine ⟨r.warned_pruned, r.matched_pruned, fun {σ} router ctx q s offers => ?_⟩
  have hsame : ∀ {τ : Type} (router : Router τ) (s : τ),
      ((router.decideBy r.pruned ctx q s).1.assignment, (router.decideBy r.pruned ctx q s).2) =
        ((router.decideBy r ctx q s).1.assignment, (router.decideBy r ctx q s).2) := by
    intro τ router s
    rw [Router.decideBy_assign, Router.decideBy_assign, router.assign_pruned]
  obtain ⟨hassignment, hstate⟩ := Prod.mk.inj (hsame router s)
  obtain ⟨-, hrecord⟩ := Prod.mk.inj (hsame router.recorded (s, offers))
  exact ⟨hassignment, hstate, hrecord⟩

end LeadRouting
