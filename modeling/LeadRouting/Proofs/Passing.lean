import LeadRouting.Evaluation.Basic

/-!
# When a condition passes

Every condition answers the first reason for which it fails. This file reads each of them as a TEST,
in which no reason is left: what has to be there, what must not be there, and what passes because
nothing is asked.

* `Geography.failure?_isNone`, `PriceBand.failure?_isNone`, `SourceFilter.failure?_isNone`,
  `MemberFilter.failure?_isNone`, `Demographics.failure?_isNone`, `Window.failure?_isNone` and
  `FieldTest.failure?_isNone` -- one equation for each condition with lists or texts in it;
* `ConsentCondition.failure?_congr` and `RepresentationDemand.failure?_congr` -- the other two look
  at one fact of the person each;
* `Conditions.passes?` -- the test of a category, if the category is there; **`checks_passed`** and
  `evaluate_matched`: the checks are the categories that are there, in their order, each with its
  test, and the conditions match where no test fails.
-/

namespace LeadRouting

theorem isNone_ite_none {α : Type} (b : Bool) (x : Option α) :
    (if b then none else x).isNone = (b || x.isNone) := by cases b <;> rfl

theorem isNone_ite_some {α : Type} (b : Bool) (x : α) (y : Option α) :
    (if b then some x else y).isNone = (!b && y.isNone) := by cases b <;> rfl

/-- A reason that is found in a list is none where no entry gives one. -/
theorem isNone_find? {α : Type} (p : α → Bool) (l : List α) : (l.find? p).isNone = !l.any p := by
  rw [Bool.eq_iff_iff, Option.isNone_iff_eq_none, List.find?_eq_none, Bool.not_eq_true',
    List.any_eq_false]

/-! ## 1. The listing -/

/-- A listing lies in a set of places as soon as one of its fields is listed. -/
theorem Places.matching?_isSome (p : Places) (listing : Option Listing) :
    (p.matching? listing).isSome = listing.any fun l =>
      Text.listed p.states l.state || Text.listed p.cities l.city ||
        Text.listed p.postalCodes l.postalCode := by
  cases listing with
  | none => rfl
  | some l =>
      unfold matching? fieldOf?
      rw [Option.bind_some, Option.any_some]
      cases Text.listed p.states l.state <;> cases Text.listed p.cities l.city <;>
        cases Text.listed p.postalCodes l.postalCode <;> rfl

/-- No listing lies in a set of places without an entry. -/
theorem Places.matching?_of_isEmpty {p : Places} (h : p.isEmpty = true)
    (listing : Option Listing) : (p.matching? listing).isSome = false := by
  obtain ⟨hplaces, hcodes⟩ := Bool.and_eq_true_iff.mp h
  obtain ⟨hstates, hcities⟩ := Bool.and_eq_true_iff.mp hplaces
  have hlisted : ∀ value, Text.listed [] value = false := by
    intro value
    cases value <;> rfl
  rw [matching?_isSome, List.isEmpty_iff.mp hstates, List.isEmpty_iff.mp hcities,
    List.isEmpty_iff.mp hcodes]
  simp only [hlisted, Bool.or_false, Option.any_false]

/-- **A geography condition passes** where the listing lies in a wanted place, if any is named, and
    in no unwanted one. -/
theorem Geography.failure?_isNone (g : Geography) (listing : Option Listing) :
    (g.failure? listing).isNone =
      (g.included.all (fun p => p.isEmpty || (p.matching? listing).isSome) &&
        !g.excluded.any fun p => (p.matching? listing).isSome) := by
  have hmissing : (g.missing? listing).isNone =
      g.included.all fun p => p.isEmpty || (p.matching? listing).isSome := by
    unfold missing?
    cases g.included with
    | none => rfl
    | some places =>
        simp only [isNone_ite_none, isNone_ite_some, Option.isNone_some, Option.all_some,
          Bool.and_false, Bool.or_false]
  have hunwanted : (g.unwanted? listing).isNone =
      !g.excluded.any fun p => (p.matching? listing).isSome := by
    unfold unwanted?
    cases g.excluded with
    | none => rfl
    | some places => simp only [Option.isNone_map, Option.bind_some, Option.any_some,
        Option.not_isSome]
  unfold failure?
  rw [Option.isNone_or, hmissing, hunwanted]

/-- Currencies agree where they are alike; one that is not named agrees with every other one. -/
theorem PriceBand.otherCurrency?_isNone (b : PriceBand) (l : Listing) :
    (b.otherCurrency? l).isNone =
      b.currency.all fun wanted => l.currency.all fun actual => Text.alike wanted actual := by
  unfold otherCurrency?
  cases b.currency with
  | none => rfl
  | some wanted =>
      cases l.currency with
      | none => rfl
      | some actual =>
          simp only [isNone_ite_none, Option.isNone_some, Option.all_some, Bool.or_false]

/-- **A price band passes** without a bound, or where the listing has a price that lies inside and
    the currencies agree. -/
theorem PriceBand.failure?_isNone (b : PriceBand) (listing : Option Listing) :
    (b.failure? listing).isNone = (!b.bounded || listing.any fun l => l.price.any fun price =>
      (b.otherCurrency? l).isNone && (b.outside? price).isNone) := by
  unfold failure?
  cases b.bounded with
  | false => rfl
  | true =>
      cases listing with
      | none => rfl
      | some l =>
          unfold unfit?
          cases hprice : l.price with
          | none => simp [hprice]
          | some price => simp [hprice]

/-! ## 2. The person -/

/-- **A condition on the source passes** where the source is listed, if any is wanted, and is not
    listed as unwanted. -/
theorem SourceFilter.failure?_isNone (f : SourceFilter) (p : Person) :
    (f.failure? p).isNone =
      ((f.included.isEmpty || Text.listed f.included p.source) &&
        !Text.listed f.excluded p.source) := by
  unfold failure? missing? unwanted?
  rw [Option.isNone_or, isNone_ite_none, isNone_ite_some, Option.isNone_none, Bool.and_true]
  cases p.source with
  | none => rw [Option.isNone_some, Bool.or_false]
  | some source => rw [Option.isNone_some, Bool.or_false]

theorem ConsentCondition.failure?_congr (c : ConsentCondition) {p q : Person}
    (h : p.consent = q.consent) : c.failure? p = c.failure? q := by
  unfold failure?
  rw [h]

theorem RepresentationDemand.failure?_congr (d : RepresentationDemand) {p q : Person}
    (h : p.representation = q.representation) : d.failure? p = d.failure? q := by
  cases d with
  | any => rfl
  | active => simp only [failure?, h]
  | notActive => simp only [failure?, h]

/-- **A filter passes** where no unwanted value is carried and some wanted value is, or all are. -/
theorem MemberFilter.failure?_isNone (f : MemberFilter) (values : List String) :
    (f.failure? values).isNone =
      (!f.excluded.any (carries values) && (f.included.isEmpty ||
        match f.mode with
        | .any => f.included.any (carries values)
        | .all => f.included.all (carries values))) := by
  unfold failure? missing?
  rw [Option.isNone_or, Option.isNone_map, isNone_find?, isNone_ite_none]
  cases f.mode with
  | any => simp only [isNone_ite_none, Option.isNone_some, Bool.or_false]
  | all => simp only [Option.isNone_map, isNone_find?, List.all_eq_not_any_not]

/-- **A condition on who the person is passes** where the age fits and every filter passes. -/
theorem Demographics.failure?_isNone (d : Demographics) (p : Person) :
    (d.failure? p).isNone =
      ((d.ageFailure? p.age).isNone &&
        d.tags.all (fun f => (f.failure? p.tags).isNone) &&
        d.languages.all (fun f => (f.failure? p.languages).isNone) &&
        d.ethnicities.all fun f => (f.failure? (p.ethnicities ++ p.tags)).isNone) := by
  unfold failure? filterFailure?
  simp only [Option.isNone_or, Option.isNone_map, Option.isNone_bind]

/-! ## 3. Windows and free fields -/

theorem Window.failure?_isNone [Zones] (windows : List Window) (tenant : Zone) (now : Instant) :
    (failure? windows tenant now).isNone = windows.any fun w => w.contains tenant now := by
  unfold failure?
  rw [isNone_ite_none, Option.isNone_some, Bool.or_false]

theorem FieldTest.failure?_isNone (tests : List FieldTest) (fields : List (String × Json)) :
    (failure? tests fields).isNone = tests.all fun t => t.passes fields := by
  unfold failure?
  rw [Option.isNone_map, isNone_find?, List.all_eq_not_any_not]

/-! ## 4. Evaluations -/

namespace Conditions

variable [Zones]

/-- Whether a category passes, if it is there. -/
def passes? (c : Conditions) (ctx : Context) (k : Category) : Option Bool :=
  (c.outcome? ctx k).map Option.isNone

/-- **The checks are the categories that are there, in their order, each with its test.** -/
theorem checks_passed (c : Conditions) (ctx : Context) :
    (c.evaluate ctx).checks.map (fun check => (check.category, check.passed)) =
      Category.all.filterMap fun k => (c.passes? ctx k).map fun passed => (k, passed) := by
  have hcheck : ∀ k, (c.check? ctx k).map (fun check => (check.category, check.passed)) =
      (c.passes? ctx k).map fun passed => (k, passed) := by
    intro k
    unfold check? passes?
    rw [Option.map_map, Option.map_map]
    rfl
  unfold evaluate checks
  rw [Evaluation.ofChecks_checks, List.map_filterMap]
  exact congrArg (fun f => Category.all.filterMap f) (funext hcheck)

/-- The conditions match where every category that is there passes. -/
theorem evaluate_matched (c : Conditions) (ctx : Context) :
    (c.evaluate ctx).matched =
      ((c.evaluate ctx).checks.map fun check => (check.category, check.passed)).all Prod.snd := by
  rw [List.all_map]
  rfl

end Conditions

end LeadRouting
