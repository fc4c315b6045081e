import LeadRouting.Proofs.Categories
import LeadRouting.Time.ListedZone

/-!
# Missing data

Of many leads little is known, and what is not known must not open a door. This file says that
conditions which only ask for what is there FAIL CLOSED: take facts of a lead away, and what failed
still fails.

* `Listing.Within`, `Person.Within` and `Context.Within` -- a context with some facts of another one
  taken away;
* `Conditions.Affirmative` -- conditions without an exclusion, without a test for an absent field
  and without a currency, each of which may pass because something is not known;
* `Geography.passes_within`, ... -- one lemma for each condition: what passes on fewer facts passes
  on more of them;
* **`evaluate_failsClosed`** -- so it is for an evaluation, category by category.
-/

namespace LeadRouting

/-! ## 1. Facts taken away -/

/-- What is left of a fact that may have been taken away. -/
def LeftOf {α : Type} (a b : Option α) : Prop := a = none ∨ a = b

/-- **A listing with some facts of another one taken away**: the price or a part of the place. -/
structure Listing.Within (l m : Listing) : Prop where
  price : LeftOf l.price m.price
  currency_eq : l.currency = m.currency
  city : LeftOf l.city m.city
  state : LeftOf l.state m.state
  postalCode : LeftOf l.postalCode m.postalCode

/-- **A person with some facts of another one taken away**: the source, the age, some of the tags,
    languages and ethnicities, some of the free fields. -/
structure Person.Within (p q : Person) : Prop where
  source : LeftOf p.source q.source
  representation_eq : p.representation = q.representation
  tags : p.tags ⊆ q.tags
  age : LeftOf p.age q.age
  languages : p.languages ⊆ q.languages
  ethnicities : p.ethnicities ⊆ q.ethnicities
  customFields : ∀ key, LeftOf (Json.lookup? key p.customFields) (Json.lookup? key q.customFields)
  consent_eq : p.consent = q.consent

/-- What is left of a listing that may have been taken away as a whole or in part. -/
def ListingWithin (listing other : Option Listing) : Prop :=
  ∀ l, listing = some l → ∃ m, other = some m ∧ l.Within m

/-- **A context with some facts of another one taken away**: the listing or facts of it, and facts
    of the person. -/
structure Context.Within [Zones] (poor rich : Context) : Prop where
  now_eq : poor.now = rich.now
  zone_eq : poor.zone = rich.zone
  person : poor.person.Within rich.person
  listing : ListingWithin poor.listing rich.listing

/-- Taking free fields away by their names leaves of each field what it was, or nothing. -/
theorem lookup?_filter_leftOf (keep : String → Bool) (fields : List (String × Json))
    (key : String) :
    LeftOf (Json.lookup? key (fields.filter fun f => keep f.1)) (Json.lookup? key fields) := by
  unfold Json.lookup?
  rw [List.find?_filter]
  by_cases hkeep : keep key = true
  · refine .inr (congrArg (fun p => (fields.find? p).map Prod.snd) (funext fun f => ?_))
    by_cases hkey : f.1 = key <;> simp [hkey, hkeep]
  · refine .inl ?_
    rw [Option.map_eq_none_iff, List.find?_eq_none]
    intro f _ hf
    obtain ⟨hkept, hkey⟩ := of_decide_eq_true hf
    exact hkeep (of_decide_eq_true hkey ▸ hkept)

/-! ## 2. Conditions that only ask for what is there -/

/-- **Conditions that cannot pass because something is not known**: they exclude nothing, test for
    no absent field and name no currency. -/
structure Conditions.Affirmative [Zones] (c : Conditions) : Prop where
  geography : ∀ g ∈ c.geography, g.excluded.all Places.isEmpty = true
  priceBand : ∀ b ∈ c.priceBand, b.currency = .none
  sources : ∀ f ∈ c.sources, f.excluded = []
  demographics : ∀ d ∈ c.demographics, ∀ f,
    d.tags = some f ∨ d.languages = some f ∨ d.ethnicities = some f → f.excluded = []
  customFields : ∀ ts ∈ c.customFields, ∀ t ∈ ts, t.operator ≠ .absent

/-! ## 3. The listing -/

/-- A text that is left where it was is listed as it was. -/
theorem Text.listed_of_leftOf {entries : List String} {value other : Option String}
    (h : LeftOf value other) (hlisted : listed entries value = true) :
    listed entries other = true := by
  rcases h with rfl | rfl
  · cases hlisted
  · exact hlisted

section Listings

variable {listing other : Option Listing}

theorem Places.matching_within (p : Places) (h : ListingWithin listing other)
    (hmatch : (p.matching? listing).isSome = true) : (p.matching? other).isSome = true := by
  rw [matching?_isSome, Option.any_eq_true] at hmatch ⊢
  obtain ⟨l, hl, hlisted⟩ := hmatch
  obtain ⟨m, hm, hwithin⟩ := h l hl
  refine ⟨m, hm, ?_⟩
  rw [Bool.or_eq_true, Bool.or_eq_true] at hlisted ⊢
  rcases hlisted with (hstate | hcity) | hcode
  · exact .inl (.inl (Text.listed_of_leftOf hwithin.state hstate))
  · exact .inl (.inr (Text.listed_of_leftOf hwithin.city hcity))
  · exact .inr (Text.listed_of_leftOf hwithin.postalCode hcode)

theorem Geography.passes_within {g : Geography} (hg : g.excluded.all Places.isEmpty = true)
    (h : ListingWithin listing other) (hpass : (g.failure? listing).isNone = true) :
    (g.failure? other).isNone = true := by
  rw [failure?_isNone, Bool.and_eq_true] at hpass ⊢
  constructor
  · rw [Option.all_eq_true] at hpass ⊢
    intro p hp
    rcases Bool.or_eq_true_iff.mp (hpass.1 p hp) with hempty | hmatch
    · exact Bool.or_eq_true_iff.mpr (.inl hempty)
    · exact Bool.or_eq_true_iff.mpr (.inr (p.matching_within h hmatch))
  · rw [Bool.not_eq_true', Option.any_eq_false]
    intro p hp
    exact p.matching?_of_isEmpty ((Option.all_eq_true _ _).mp hg p hp) other

theorem PriceBand.passes_within {b : PriceBand} (hb : b.currency = none)
    (h : ListingWithin listing other) (hpass : (b.failure? listing).isNone = true) :
    (b.failure? other).isNone = true := by
  have hcurrency : ∀ l : Listing, (b.otherCurrency? l).isNone = true := by
    intro l
    rw [otherCurrency?_isNone, hb]
    rfl
  rw [failure?_isNone, Bool.or_eq_true] at hpass ⊢
  rcases hpass with hunbounded | hfits
  · exact .inl hunbounded
  · obtain ⟨l, hl, hprice⟩ := (Option.any_eq_true _ _).mp hfits
    obtain ⟨price, hp, hinside⟩ := (Option.any_eq_true _ _).mp hprice
    obtain ⟨m, hm, hwithin⟩ := h l hl
    -- a price that is known has not been taken away
    have hsame : m.price = some price := by
      rcases hwithin.price with hnone | heq
      · rw [hnone] at hp; cases hp
      · rw [← heq, hp]
    refine .inr ((Option.any_eq_true _ _).mpr ⟨m, hm, ?_⟩)
    refine (Option.any_eq_true _ _).mpr ⟨price, hsame, ?_⟩
    exact Bool.and_eq_true_iff.mpr ⟨hcurrency m, (Bool.and_eq_true_iff.mp hinside).2⟩

end Listings

/-! ## 4. The person -/

section Persons

variable {p q : Person}

theorem SourceFilter.passes_within {f : SourceFilter} (hf : f.excluded = []) (h : p.Within q)
    (hpass : (f.failure? p).isNone = true) : (f.failure? q).isNone = true := by
  rw [failure?_isNone, Bool.and_eq_true] at hpass ⊢
  constructor
  · rcases Bool.or_eq_true_iff.mp hpass.1 with hempty | hlisted
    · exact Bool.or_eq_true_iff.mpr (.inl hempty)
    · exact Bool.or_eq_true_iff.mpr (.inr (Text.listed_of_leftOf h.source hlisted))
  · rw [hf]
    cases q.source <;> rfl

theorem MemberFilter.carries_of_subset {values others : List String} (h : values ⊆ others)
    {wanted : String} (hcarries : carries values wanted = true) : carries others wanted = true := by
  obtain ⟨v, hv, halike⟩ := List.any_eq_true.mp hcarries
  exact List.any_eq_true.mpr ⟨v, h hv, halike⟩

theorem MemberFilter.passes_within {f : MemberFilter} (hf : f.excluded = [])
    {values others : List String} (h : values ⊆ others)
    (hpass : (f.failure? values).isNone = true) : (f.failure? others).isNone = true := by
  rw [failure?_isNone, hf, Bool.and_eq_true] at hpass ⊢
  refine ⟨rfl, ?_⟩
  rcases Bool.or_eq_true_iff.mp hpass.2 with hempty | hwanted
  · exact Bool.or_eq_true_iff.mpr (.inl hempty)
  · refine Bool.or_eq_true_iff.mpr (.inr ?_)
    cases hmode : f.mode with
    | any =>
        rw [hmode] at hwanted
        obtain ⟨i, hi, hcarries⟩ := List.any_eq_true.mp hwanted
        exact List.any_eq_true.mpr ⟨i, hi, carries_of_subset h hcarries⟩
    | all =>
        rw [hmode] at hwanted
        refine List.all_eq_true.mpr fun i hi => ?_
        exact carries_of_subset h (List.all_eq_true.mp hwanted i hi)

theorem Demographics.age_passes_within (d : Demographics) (h : LeftOf p.age q.age)
    (hpass : (d.ageFailure? p.age).isNone = true) : (d.ageFailure? q.age).isNone = true := by
  rcases h with hnone | heq
  · -- an age that is not known passes only where no bound asks for it
    rw [hnone] at hpass
    unfold ageFailure? at hpass ⊢
    split at hpass
    · cases hpass
    · rename_i hbounds
      rw [if_neg hbounds]
      rfl
  · rw [← heq]
    exact hpass

theorem Demographics.passes_within {d : Demographics}
    (hd : ∀ f, d.tags = some f ∨ d.languages = some f ∨ d.ethnicities = some f → f.excluded = [])
    (h : p.Within q) (hpass : (d.failure? p).isNone = true) : (d.failure? q).isNone = true := by
  rw [failure?_isNone] at hpass ⊢
  simp only [Bool.and_eq_true, Option.all_eq_true] at hpass ⊢
  obtain ⟨⟨⟨hage, htags⟩, hlanguages⟩, hethnicities⟩ := hpass
  refine ⟨⟨⟨d.age_passes_within h.age hage, fun f hf => ?_⟩, fun f hf => ?_⟩, fun f hf => ?_⟩
  · exact MemberFilter.passes_within (hd f (.inl hf)) h.tags (htags f hf)
  · exact MemberFilter.passes_within (hd f (.inr (.inl hf))) h.languages (hlanguages f hf)
  · have hboth : p.ethnicities ++ p.tags ⊆ q.ethnicities ++ q.tags :=
      List.append_subset.mpr ⟨List.subset_append_of_subset_left _ h.ethnicities,
        List.subset_append_of_subset_right _ h.tags⟩
    exact MemberFilter.passes_within (hd f (.inr (.inr hf))) hboth (hethnicities f hf)

/-- **No operator but the one for absent fields accepts a field that is missing.** -/
theorem Operator.holds_none {op : Operator} (h : op ≠ .absent) (value : Json) :
    op.holds none value = false := by
  cases op with
  | absent => exact absurd rfl h
  | _ => rfl

theorem FieldTest.passes_within {t : FieldTest} (ht : t.operator ≠ .absent) (h : p.Within q)
    (hpass : t.passes p.customFields = true) : t.passes q.customFields = true := by
  unfold passes at hpass ⊢
  rcases h.customFields t.key with hnone | heq
  · rw [hnone, Operator.holds_none ht] at hpass
    cases hpass
  · rw [← heq]
    exact hpass

end Persons

/-! ## 5. Evaluations -/

section Evaluations

variable [Zones] {c : Conditions} {poor rich : Context}

/-- What passes on fewer facts passes on more of them. -/
theorem Conditions.passes?_within (hc : c.Affirmative) (h : poor.Within rich) (k : Category)
    (hpass : c.passes? poor k = some true) : c.passes? rich k = some true := by
  unfold passes? outcome? at hpass ⊢
  cases k with
  | geography =>
      simp only [Option.map_map, Option.map_eq_some_iff] at hpass ⊢
      obtain ⟨g, hg, hpass⟩ := hpass
      exact ⟨g, hg, g.passes_within (hc.geography g hg) h.listing hpass⟩
  | priceBand =>
      simp only [Option.map_map, Option.map_eq_some_iff] at hpass ⊢
      obtain ⟨b, hb, hpass⟩ := hpass
      exact ⟨b, hb, b.passes_within (hc.priceBand b hb) h.listing hpass⟩
  | sources =>
      simp only [Option.map_map, Option.map_eq_some_iff] at hpass ⊢
      obtain ⟨f, hf, hpass⟩ := hpass
      exact ⟨f, hf, f.passes_within (hc.sources f hf) h.person hpass⟩
  | consent =>
      have hconsent : ∀ d : ConsentCondition, d.failure? poor.person = d.failure? rich.person :=
        fun d => d.failure?_congr h.person.consent_eq
      simpa only [hconsent] using hpass
  | representation =>
      have hdemand : ∀ d : RepresentationDemand, d.failure? poor.person = d.failure? rich.person :=
        fun d => d.failure?_congr h.person.representation_eq
      simpa only [hdemand] using hpass
  | windows =>
      rw [h.now_eq, h.zone_eq] at hpass
      exact hpass
  | demographics =>
      simp only [Option.map_map, Option.map_eq_some_iff] at hpass ⊢
      obtain ⟨d, hd, hpass⟩ := hpass
      exact ⟨d, hd, d.passes_within (hc.demographics d hd) h.person hpass⟩
  | customFields =>
      simp only [Option.map_map, Option.map_eq_some_iff, Function.comp_apply,
        FieldTest.failure?_isNone, List.all_eq_true] at hpass ⊢
      obtain ⟨ts, hts, hpass⟩ := hpass
      refine ⟨ts, hts, fun t ht => ?_⟩
      exact t.passes_within (hc.customFields ts hts t ht) h.person (hpass t ht)

/-- What fails on more facts fails on fewer of them. -/
theorem Conditions.fails?_within (hc : c.Affirmative) (h : poor.Within rich) (k : Category)
    (hfail : c.passes? rich k = some false) : c.passes? poor k = some false := by
  have hthere : (c.passes? poor k).isSome = (c.passes? rich k).isSome := by
    unfold passes?
    rw [Option.isSome_map, Option.isSome_map, isSome_outcome?, isSome_outcome?]
  cases hpoor : c.passes? poor k with
  | none => rw [hpoor, hfail] at hthere; cases hthere
  | some passed =>
      cases passed with
      | false => rfl
      | true => rw [passes?_within hc h k hpoor] at hfail; cases hfail

/-- **Missing data never makes a lead eligible.** Conditions that only ask for what is there and
    match a context match every context that holds more facts, and every check that fails on the
    one with more facts fails on the other one. -/
theorem evaluate_failsClosed (hc : c.Affirmative) (h : poor.Within rich) :
    ((c.evaluate poor).matched = true → (c.evaluate rich).matched = true) ∧
      ∀ check ∈ (c.evaluate rich).checks, check.passed = false →
        ∃ other ∈ (c.evaluate poor).checks,
          other.category = check.category ∧ other.passed = false := by
  constructor
  · intro hmatched
    rw [Conditions.evaluate_matched_iff] at hmatched ⊢
    exact fun k hfail => hmatched k (Conditions.fails?_within hc h k hfail)
  · intro check hmem hfailed
    rw [Conditions.exists_check_iff]
    refine Conditions.fails?_within hc h check.category ?_
    exact (c.exists_check_iff rich check.category).mp ⟨check, hmem, rfl, hfailed⟩

end Evaluations

/-- A lead from the web, of thirty, with a tag that stands for an ethnicity and a field for the
    budget, who asks for a house in Denver: with the second language and the field for pets taken
    away the conditions still match; with the place of the house taken away as well they do not. -/
theorem evaluate_failsClosed_denver :
    let c : Conditions := { Conditions.none with
      geography := some ⟨some ⟨[], ["Denver"], []⟩, .none⟩
      priceBand := some ⟨.none, some 500.0, .none⟩
      sources := some ⟨["web"], []⟩
      demographics := some ⟨some 18, .none, .none, some ⟨["en"], [], .any⟩,
        some ⟨["hispanic"], [], .all⟩⟩
      customFields := some [⟨"budget", .present, .null⟩] }
    let rich : Context := { Context.at ⟨0, 0⟩ with
      person := { Person.unknown with
        source := some "Web", age := some 30, tags := ["Hispanic"], languages := ["en", "es"]
        customFields := [("budget", .int 400), ("pets", .bool true)] }
      listing := some ⟨some 250.0, .none, some "denver", some "CO", .none⟩ }
    let poor : Context := { rich with
      person := { rich.person with
        languages := ["en"]
        customFields := rich.person.customFields.filter fun f => f.1 ≠ "pets" }
      listing := some ⟨some 250.0, .none, some "denver", .none, .none⟩ }
    let poorest : Context := { poor with listing := some ⟨some 250.0, .none, .none, .none, .none⟩ }
    c.Affirmative ∧ poor.Within rich ∧ poorest.Within poor ∧
      (c.evaluate poor).matched = true ∧ (c.evaluate rich).matched = true ∧
      (c.evaluate poorest).matched = false ∧
      ∀ check ∈ (c.evaluate rich).checks, check.passed = false →
        ∃ other ∈ (c.evaluate poor).checks,
          other.category = check.category ∧ other.passed = false := by
  intro c rich poor poorest
  have hc : c.Affirmative := by
    refine ⟨?_, ?_, ?_, ?_, ?_⟩
    · rintro g ⟨⟩; rfl
    · rintro b ⟨⟩; rfl
    · rintro f ⟨⟩; rfl
    · rintro d ⟨⟩ f (htags | hlanguages | hethnicities)
      · cases htags
      · cases hlanguages; rfl
      · cases hethnicities; rfl
    · rintro ts ⟨⟩ t ht
      rw [List.mem_singleton.mp ht]
      decide
  have hperson : poor.person.Within rich.person :=
    { source := .inr rfl
      representation_eq := rfl
      tags := List.Subset.refl _
      age := .inr rfl
      languages := List.cons_subset_cons "en" (List.nil_subset _)
      ethnicities := List.Subset.refl _
      customFields := lookup?_filter_leftOf (fun key => key ≠ "pets") rich.person.customFields
      consent_eq := rfl }
  have hpoor : poor.Within rich := by
    refine ⟨rfl, rfl, hperson, ?_⟩
    rintro l ⟨⟩
    exact ⟨_, rfl, .inr rfl, rfl, .inr rfl, .inl rfl, .inr rfl⟩
  have hpoorest : poorest.Within poor := by
    refine ⟨rfl, rfl, ?_, ?_⟩
    · exact ⟨.inr rfl, rfl, List.Subset.refl _, .inr rfl, List.Subset.refl _, List.Subset.refl _,
        fun _ => .inr rfl, rfl⟩
    · rintro l ⟨⟩
      exact ⟨_, rfl, .inr rfl, rfl, .inl rfl, .inr rfl, .inr rfl⟩
  have hmatched : (c.evaluate poor).matched = true := by decide +kernel
  obtain ⟨hmatches, hfails⟩ := evaluate_failsClosed hc hpoor
  exact ⟨hc, hpoor, hpoorest, hmatched, hmatches hmatched, by decide +kernel, hfails⟩

end LeadRouting
