import LeadRouting.Proofs.Passing
import LeadRouting.Time.ListedZone

/-!
# Category by category

The categories of conditions are tested one after the other, and none of them sees another one. This
file says so of the whole evaluation, and which facts of a context each of them looks at.

* `Conditions.has` -- a category is there; `map_category_checks`: the checks are those of the
  categories that are there, in their order;
* `Conditions.restrict` -- the conditions with some of their categories and no others, `only` with
  one of them; `check?_restrict` -- a category that stays keeps its check;
* `Category.Agree` -- two contexts hold the same facts for a category; `check?_of_agree` -- then its
  check is the same;
* `exists_check_iff` and `evaluate_matched_iff` -- an evaluation, read off the tests of its
  categories;
* **`evaluate_composes`** -- an evaluation is put together from those of single categories.
-/

namespace LeadRouting

/-! ## 1. Parts of conditions -/

namespace Conditions

variable [Zones]

/-- A category is there. -/
def has (c : Conditions) : Category → Bool
  | .geography => c.geography.isSome
  | .priceBand => c.priceBand.isSome
  | .sources => c.sources.isSome
  | .consent => c.consent.isSome
  | .representation => c.representation.isSome
  | .windows => c.windows.isSome
  | .demographics => c.demographics.isSome
  | .customFields => c.customFields.isSome

/-- The conditions with the categories that pass a test and no others. -/
def restrict (c : Conditions) (q : Category → Bool) : Conditions where
  geography := if q .geography then c.geography else .none
  priceBand := if q .priceBand then c.priceBand else .none
  sources := if q .sources then c.sources else .none
  consent := if q .consent then c.consent else .none
  representation := if q .representation then c.representation else .none
  windows := if q .windows then c.windows else .none
  demographics := if q .demographics then c.demographics else .none
  customFields := if q .customFields then c.customFields else .none

/-- The conditions with one category. -/
def only (c : Conditions) (k : Category) : Conditions := c.restrict fun j => j = k

variable (c : Conditions) (q : Category → Bool) (ctx : Context) (k : Category)

theorem isSome_outcome? : (c.outcome? ctx k).isSome = c.has k := by
  cases k <;> exact Option.isSome_map

theorem isSome_check? : (c.check? ctx k).isSome = c.has k := by
  unfold check?
  rw [Option.isSome_map, isSome_outcome?]

/-- A check that is there is the check of its category. -/
theorem category_of_check? {check : Check} (h : c.check? ctx k = some check) :
    check.category = k := by
  obtain ⟨f, -, rfl⟩ := Option.map_eq_some_iff.mp h
  rfl

/-- **A category that stays keeps its check**, and one that goes has none. -/
theorem check?_restrict :
    (c.restrict q).check? ctx k = if q k then c.check? ctx k else .none := by
  unfold check? outcome? restrict
  cases k <;> dsimp only <;> split <;> rfl

theorem passes?_restrict :
    (c.restrict q).passes? ctx k = if q k then c.passes? ctx k else .none := by
  have hpasses : ∀ c : Conditions, c.passes? ctx k = (c.check? ctx k).map Check.passed := by
    intro c
    unfold passes? check?
    rw [Option.map_map]
    rfl
  rw [hpasses, hpasses, check?_restrict]
  split <;> rfl

theorem checks_restrict :
    (c.restrict q).checks ctx = (Category.all.filter q).filterMap (c.check? ctx) := by
  unfold checks
  rw [List.filterMap_filter]
  exact congrArg (fun f => Category.all.filterMap f) (funext fun k => c.check?_restrict q ctx k)

/-- **The checks are those of the categories that are there**, each once and in their order. -/
theorem map_category_checks : (c.checks ctx).map Check.category = Category.all.filter c.has := by
  have hcategory : ∀ k, (c.check? ctx k).map Check.category =
      if c.has k then some k else .none := by
    intro k
    rw [← c.isSome_check? ctx k]
    cases hcheck : c.check? ctx k with
    | none => rfl
    | some check => exact congrArg some (c.category_of_check? ctx k hcheck)
  unfold checks
  rw [List.map_filterMap, ← List.filterMap_eq_filter]
  exact congrArg (fun f => Category.all.filterMap f) (funext fun k => by
    rw [hcategory k, Option.guard_apply])

/-- What an evaluation shows of a category is its check. -/
theorem check?_evaluate : (c.evaluate ctx).check? k = c.check? ctx k := by
  unfold evaluate Evaluation.check?
  rw [Evaluation.ofChecks_checks]
  cases hfind : (c.checks ctx).find? fun check => check.category = k with
  | some check =>
      have hcategory : check.category = k := by simpa using List.find?_some hfind
      have hcheck := mem_checks.mp (List.mem_of_find?_eq_some hfind)
      rw [← hcategory, hcheck]
  | none =>
      cases hcheck : c.check? ctx k with
      | none => rfl
      | some check =>
          have hcategory := c.category_of_check? ctx k hcheck
          have hmem : check ∈ c.checks ctx := mem_checks.mpr (hcategory.symm ▸ hcheck)
          exact absurd (decide_eq_true hcategory) (List.find?_eq_none.mp hfind check hmem)

/-- **Conditions with one category show the check of that category.** -/
theorem checks_only : ((c.only k).evaluate ctx).checks = ((c.evaluate ctx).check? k).toList := by
  have hsingle : Category.all.filter (fun j => j = k) = [k] := by cases k <;> decide
  have hchecks : ((c.only k).evaluate ctx).checks = [k].filterMap (c.check? ctx) := by
    rw [← hsingle]
    exact c.checks_restrict (fun j => j = k) ctx
  rw [hchecks, check?_evaluate]
  cases hcheck : c.check? ctx k with
  | none => rw [List.filterMap_cons_none hcheck]; rfl
  | some check => rw [List.filterMap_cons_some hcheck]; rfl

/-! ## 2. What an evaluation says of its categories -/

/-- A check of a category came out as the test of that category does. -/
theorem exists_check_iff {passed : Bool} :
    (∃ check ∈ (c.evaluate ctx).checks, check.category = k ∧ check.passed = passed) ↔
      c.passes? ctx k = some passed := by
  unfold passes?
  rw [Option.map_eq_some_iff]
  constructor
  · rintro ⟨check, hmem, rfl, rfl⟩
    obtain ⟨failure, houtcome, hcheck⟩ := Option.map_eq_some_iff.mp (mem_checks.mp hmem)
    exact ⟨failure, houtcome, congrArg Check.passed hcheck⟩
  · rintro ⟨failure, houtcome, rfl⟩
    exact ⟨.of k failure, mem_checks.mpr (congrArg (Option.map (Check.of k)) houtcome), rfl, rfl⟩

/-- **Conditions match where no category fails.** -/
theorem evaluate_matched_iff :
    (c.evaluate ctx).matched = true ↔ ∀ k, c.passes? ctx k ≠ some false := by
  unfold evaluate
  rw [Evaluation.ofChecks_matched_iff]
  constructor
  · intro hall k hfailed
    obtain ⟨check, hmem, -, hpassed⟩ := (c.exists_check_iff ctx k).mpr hfailed
    rw [hall check hmem] at hpassed
    cases hpassed
  · intro hnone check hmem
    cases hpassed : check.passed with
    | true => rfl
    | false =>
        have hfailed := (c.exists_check_iff ctx check.category).mp ⟨check, hmem, rfl, hpassed⟩
        exact absurd hfailed (hnone check.category)

/-- **Conditions match exactly where both parts of them do**, however they are parted. -/
theorem evaluate_matched_restrict :
    (c.evaluate ctx).matched =
      (((c.restrict q).evaluate ctx).matched &&
        ((c.restrict fun k => !q k).evaluate ctx).matched) := by
  rw [Bool.eq_iff_iff, Bool.and_eq_true, evaluate_matched_iff, evaluate_matched_iff,
    evaluate_matched_iff, ← forall_and]
  refine forall_congr' fun k => ?_
  rw [passes?_restrict, passes?_restrict]
  cases q k with
  | true => exact (and_iff_left (by simp)).symm
  | false => exact (and_iff_right (by simp)).symm

end Conditions

/-! ## 3. What a category looks at -/

/-- The person without the free fields. -/
def Person.bare (p : Person) : Person := { p with customFields := [] }

/-- **Two contexts hold the same facts for a category.** -/
def Category.Agree [Zones] (k : Category) (ctx there : Context) : Prop :=
  match k with
  | .geography | .priceBand => ctx.listing = there.listing
  | .sources | .consent | .representation | .demographics => ctx.person.bare = there.person.bare
  | .windows => ctx.now = there.now ∧ ctx.zone = there.zone
  | .customFields => ctx.person.customFields = there.person.customFields

namespace Conditions

section Agreeing

variable [Zones]

/-- **A check depends on the facts of its own category only.** -/
theorem check?_of_agree (c : Conditions) {k : Category} {ctx there : Context}
    (h : k.Agree ctx there) : c.check? ctx k = c.check? there k := by
  refine congrArg (Option.map (Check.of k)) ?_
  cases k with
  | geography | priceBand =>
      have hlisting : ctx.listing = there.listing := h
      simp only [outcome?, hlisting]
  | sources =>
      obtain ⟨hsource, -⟩ := Person.mk.inj h
      simp only [outcome?, SourceFilter.failure?, hsource]
  | consent =>
      obtain ⟨-, -, -, -, -, -, -, hconsent⟩ := Person.mk.inj h
      exact congrArg (fun f => c.consent.map f) (funext fun d => d.failure?_congr hconsent)
  | representation =>
      obtain ⟨-, hstage, -⟩ := Person.mk.inj h
      exact congrArg (fun f => c.representation.map f) (funext fun d => d.failure?_congr hstage)
  | windows =>
      obtain ⟨hnow, hzone⟩ := h
      simp only [outcome?, hnow, hzone]
  | demographics =>
      obtain ⟨-, -, htags, hage, hlanguages, hethnicities, -⟩ := Person.mk.inj h
      simp only [outcome?, Demographics.failure?, hage, htags, hlanguages, hethnicities]
  | customFields =>
      have hfields : ctx.person.customFields = there.person.customFields := h
      simp only [outcome?, hfields]

/-! ## 4. Evaluations put together -/

/-- **An evaluation is put together from those of single categories.** (1) The checks are those of
    the categories that are there, each once, in the fixed order. (2) Conditions with one category
    only show its check. (3) The conditions match exactly where no check failed, and (4) so exactly
    where both parts of them match, however they are parted. (5) A check says why exactly where it
    failed. (6) On contexts that hold the same facts for a category, its check is the same. -/
theorem evaluate_composes (c : Conditions) (ctx : Context) :
    (c.evaluate ctx).checks.map Check.category = Category.all.filter c.has ∧
    (∀ k, ((c.only k).evaluate ctx).checks = ((c.evaluate ctx).check? k).toList) ∧
    ((c.evaluate ctx).matched = true ↔ ∀ check ∈ (c.evaluate ctx).checks, check.passed = true) ∧
    (∀ q, (c.evaluate ctx).matched = (((c.restrict q).evaluate ctx).matched &&
      ((c.restrict fun k => !q k).evaluate ctx).matched)) ∧
    (∀ check ∈ (c.evaluate ctx).checks, check.detail.isSome = !check.passed) ∧
    ∀ k there, k.Agree ctx there →
      (c.evaluate ctx).check? k = (c.evaluate there).check? k := by
  refine ⟨c.map_category_checks ctx, c.checks_only ctx, Evaluation.ofChecks_matched_iff _,
    fun q => c.evaluate_matched_restrict q ctx, fun check hmem => ?_, fun k there hagree => ?_⟩
  · obtain ⟨failure, -, hcheck⟩ := Option.map_eq_some_iff.mp (mem_checks.mp hmem)
    rw [← hcheck, Check.of_detail, Check.of_passed, Option.not_isNone]
  · rw [check?_evaluate, check?_evaluate, c.check?_of_agree hagree]

end Agreeing

/-- A house in Denver that is too dear for a lead from the web: the price fails and says so, the
    other two categories match by themselves, and what else is known of the person does not count
    for the place. -/
theorem evaluate_composes_denver :
    let c : Conditions := { Conditions.none with
      geography := some ⟨some ⟨[], ["Denver"], []⟩, .none⟩
      priceBand := some ⟨.none, some 100.0, .none⟩
      sources := some ⟨["web"], []⟩ }
    let ctx : Context := { Context.at ⟨0, 0⟩ with
      person := { Person.unknown with source := some "Web" }
      listing := some ⟨some 250.0, .none, some "denver", .none, .none⟩ }
    let there : Context := { ctx with now := ⟨60, 0⟩, person := .unknown }
    let priced : Category → Bool := fun k => k = .priceBand
    Category.geography.Agree ctx there ∧
      (c.evaluate ctx).checks.map Check.category = [.geography, .priceBand, .sources] ∧
      (c.evaluate ctx).matched = false ∧
      ((c.restrict fun k => !priced k).evaluate ctx).matched = true ∧
      (c.evaluate ctx).matched = (((c.restrict priced).evaluate ctx).matched &&
        ((c.restrict fun k => !priced k).evaluate ctx).matched) ∧
      ((c.only .priceBand).evaluate ctx).checks = ((c.evaluate ctx).check? .priceBand).toList ∧
      (c.evaluate ctx).check? .geography = (c.evaluate there).check? .geography := by
  intro c ctx there priced
  have hagree : Category.geography.Agree ctx there := rfl
  obtain ⟨-, honly, -, hparts, -, hfacts⟩ := c.evaluate_composes ctx
  exact ⟨hagree, by decide +kernel, by decide +kernel, by decide +kernel, hparts priced,
    honly .priceBand, hfacts .geography there hagree⟩

end Conditions

end LeadRouting
