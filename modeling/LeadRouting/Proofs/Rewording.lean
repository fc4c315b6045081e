import LeadRouting.Proofs.Passing
import LeadRouting.Proofs.Spelling
import LeadRouting.Time.ListedZone

/-!
# Conditions in other words

People write the same condition in many ways: they list the same cities in another order, or one of
them twice, and spell them with other capitals or with a blank too many. This file says that none of
it counts.

* `Places.Reworded`, ..., `Conditions.Reworded` and `Person.Reworded`, `Listing.Reworded`,
  `Context.Reworded` -- two conditions, or two contexts, that differ only in how their lists are
  written and in how their texts are spelled, field by field;
* `Geography.Reworded.passes_eq`, ... -- one lemma for each condition: it passes in both wordings, on
  both wordings of the lead, or in neither;
* **`evaluate_reworded`** -- an evaluation shows the same categories with the same outcomes.
-/

namespace LeadRouting

open Text (Alike)

/-! ## 1. What may be missing -/

section Optional

variable {α β : Type} {R : α → α → Prop} {a b : Option α}

theorem all_eq_of_rel (h : Option.Rel R a b) {p q : α → Bool} (hpq : ∀ x y, R x y → p x = q y) :
    a.all p = b.all q := by
  cases h with
  | none => rfl
  | some h => exact hpq _ _ h

theorem any_eq_of_rel (h : Option.Rel R a b) {p q : α → Bool} (hpq : ∀ x y, R x y → p x = q y) :
    a.any p = b.any q := by
  cases h with
  | none => rfl
  | some h => exact hpq _ _ h

theorem map_eq_of_rel (h : Option.Rel R a b) {f g : α → β} (hfg : ∀ x y, R x y → f x = g y) :
    a.map f = b.map g := by
  cases h with
  | none => rfl
  | some h => exact congrArg some (hfg _ _ h)

end Optional

/-! ## 2. The lead -/

/-- **Two listings that differ in spelling only.** -/
structure Listing.Reworded (l m : Listing) : Prop where
  price_eq : l.price = m.price
  currency : Option.Rel Alike l.currency m.currency
  city : Option.Rel Alike l.city m.city
  state : Option.Rel Alike l.state m.state
  postalCode : Option.Rel Alike l.postalCode m.postalCode

/-- **Two persons that differ only** in how the source and the lists of tags, languages and
    ethnicities are written. -/
structure Person.Reworded (p q : Person) : Prop where
  source : Option.Rel Alike p.source q.source
  representation_eq : p.representation = q.representation
  tags : Relisted Alike p.tags q.tags
  age_eq : p.age = q.age
  languages : Relisted Alike p.languages q.languages
  ethnicities : Relisted Alike p.ethnicities q.ethnicities
  customFields_eq : p.customFields = q.customFields
  consent_eq : p.consent = q.consent

/-- **Two contexts that differ only in how the person and the listing are written.** -/
structure Context.Reworded [Zones] (ctx there : Context) : Prop where
  now_eq : ctx.now = there.now
  zone_eq : ctx.zone = there.zone
  person : ctx.person.Reworded there.person
  listing : Option.Rel Listing.Reworded ctx.listing there.listing

/-! ## 3. Place and price -/

/-- Two sets of places that differ in how they are written only. -/
structure Places.Reworded (p q : Places) : Prop where
  states : Relisted Alike p.states q.states
  cities : Relisted Alike p.cities q.cities
  postalCodes : Relisted Alike p.postalCodes q.postalCodes

/-- Two geography conditions that differ in how their places are written only. -/
structure Geography.Reworded (g h : Geography) : Prop where
  included : Option.Rel Places.Reworded g.included h.included
  excluded : Option.Rel Places.Reworded g.excluded h.excluded

/-- Two price bands that differ in how the currency is spelled only. -/
structure PriceBand.Reworded (b c : PriceBand) : Prop where
  min_eq : b.min = c.min
  max_eq : b.max = c.max
  currency : Option.Rel Alike b.currency c.currency

section Listings

variable {listing other : Option Listing}

theorem Places.Reworded.isEmpty_eq {p q : Places} (h : p.Reworded q) : p.isEmpty = q.isEmpty := by
  unfold isEmpty
  rw [h.states.isEmpty_eq, h.cities.isEmpty_eq, h.postalCodes.isEmpty_eq]

theorem Places.Reworded.matching_eq {p q : Places} (h : p.Reworded q)
    (hlisting : Option.Rel Listing.Reworded listing other) :
    (p.matching? listing).isSome = (q.matching? other).isSome := by
  rw [matching?_isSome, matching?_isSome]
  refine any_eq_of_rel hlisting fun l m hlm => ?_
  rw [Text.listed_eq h.states hlm.state, Text.listed_eq h.cities hlm.city,
    Text.listed_eq h.postalCodes hlm.postalCode]

theorem Geography.Reworded.passes_eq {g h : Geography} (hg : g.Reworded h)
    (hlisting : Option.Rel Listing.Reworded listing other) :
    (g.failure? listing).isNone = (h.failure? other).isNone := by
  have hincluded := all_eq_of_rel hg.included
    (p := fun p => p.isEmpty || (p.matching? listing).isSome)
    (q := fun q => q.isEmpty || (q.matching? other).isSome)
    fun p q hpq => by rw [hpq.isEmpty_eq, hpq.matching_eq hlisting]
  have hexcluded := any_eq_of_rel hg.excluded
    (p := fun p => (p.matching? listing).isSome) (q := fun q => (q.matching? other).isSome)
    fun p q hpq => hpq.matching_eq hlisting
  rw [failure?_isNone, failure?_isNone, hincluded, hexcluded]

theorem PriceBand.Reworded.passes_eq {b c : PriceBand} (h : b.Reworded c)
    (hlisting : Option.Rel Listing.Reworded listing other) :
    (b.failure? listing).isNone = (c.failure? other).isNone := by
  have hbounded : b.bounded = c.bounded := by
    unfold bounded
    rw [h.min_eq, h.max_eq]
  have houtside : b.outside? = c.outside? := by
    unfold outside?
    rw [h.min_eq, h.max_eq]
  have hcurrency : ∀ l m : Listing, l.Reworded m →
      (b.otherCurrency? l).isNone = (c.otherCurrency? m).isNone := by
    intro l m hlm
    rw [otherCurrency?_isNone, otherCurrency?_isNone]
    refine all_eq_of_rel h.currency fun wanted asked hwanted => ?_
    refine all_eq_of_rel hlm.currency fun actual given hactual => ?_
    rw [hwanted.left_eq, hactual.right_eq]
  rw [failure?_isNone, failure?_isNone, hbounded, houtside]
  refine congrArg (!c.bounded || ·) (any_eq_of_rel hlisting fun l m hlm => ?_)
  rw [hlm.price_eq, hcurrency l m hlm]

end Listings

/-! ## 4. The person -/

/-- Two conditions on the source that differ in how they are written only. -/
structure SourceFilter.Reworded (f g : SourceFilter) : Prop where
  included : Relisted Alike f.included g.included
  excluded : Relisted Alike f.excluded g.excluded

/-- Two filters that differ in how they are written only. -/
structure MemberFilter.Reworded (f g : MemberFilter) : Prop where
  included : Relisted Alike f.included g.included
  excluded : Relisted Alike f.excluded g.excluded
  mode_eq : f.mode = g.mode

/-- Two conditions on who the person is that differ in how their filters are written only. -/
structure Demographics.Reworded (d e : Demographics) : Prop where
  minAge_eq : d.minAge = e.minAge
  maxAge_eq : d.maxAge = e.maxAge
  tags : Option.Rel MemberFilter.Reworded d.tags e.tags
  languages : Option.Rel MemberFilter.Reworded d.languages e.languages
  ethnicities : Option.Rel MemberFilter.Reworded d.ethnicities e.ethnicities

section Persons

variable {p q : Person}

theorem SourceFilter.Reworded.passes_eq {f g : SourceFilter} (h : f.Reworded g)
    (hperson : p.Reworded q) : (f.failure? p).isNone = (g.failure? q).isNone := by
  rw [failure?_isNone, failure?_isNone, h.included.isEmpty_eq,
    Text.listed_eq h.included hperson.source, Text.listed_eq h.excluded hperson.source]

section Carried

variable {values others : List String}

/-- Whether a value is carried does not depend on how the values are written. -/
theorem carries_of_relisted (h : Relisted Alike values others) (wanted : String) :
    MemberFilter.carries values wanted = MemberFilter.carries others wanted :=
  h.any_eq fun _ _ hv => hv.left_eq wanted

/-- Alike values are carried together. -/
theorem carries_of_alike (values : List String) {wanted asked : String} (h : Alike wanted asked) :
    MemberFilter.carries values wanted = MemberFilter.carries values asked :=
  congrArg values.any (funext fun v => h.right_eq v)

theorem carries_append (values others : List String) (wanted : String) :
    MemberFilter.carries (values ++ others) wanted =
      (MemberFilter.carries values wanted || MemberFilter.carries others wanted) := List.any_append

/-- **A filter passes in both wordings or in neither**, on values that carry the same. -/
theorem MemberFilter.Reworded.passes_eq {f g : MemberFilter} (h : f.Reworded g)
    (hvalues : carries values = carries others) :
    (f.failure? values).isNone = (g.failure? others).isNone := by
  have hcarries : ∀ w a, Alike w a → carries others w = carries others a :=
    fun w a hwa => carries_of_alike others hwa
  rw [failure?_isNone, failure?_isNone, hvalues, h.mode_eq, h.excluded.any_eq hcarries,
    h.included.isEmpty_eq, h.included.any_eq hcarries, h.included.all_eq hcarries]

end Carried

theorem Demographics.Reworded.passes_eq {d e : Demographics} (h : d.Reworded e)
    (hperson : p.Reworded q) : (d.failure? p).isNone = (e.failure? q).isNone := by
  have hage : d.ageFailure? p.age = e.ageFailure? q.age := by
    unfold ageFailure? outside?
    rw [h.minAge_eq, h.maxAge_eq, hperson.age_eq]
  have htags : MemberFilter.carries p.tags = MemberFilter.carries q.tags :=
    funext (carries_of_relisted hperson.tags)
  have hlanguages : MemberFilter.carries p.languages = MemberFilter.carries q.languages :=
    funext (carries_of_relisted hperson.languages)
  -- an ethnicity may stand among the tags too
  have hethnicities : MemberFilter.carries (p.ethnicities ++ p.tags) =
      MemberFilter.carries (q.ethnicities ++ q.tags) := by
    funext wanted
    rw [carries_append, carries_append, carries_of_relisted hperson.ethnicities, htags]
  rw [failure?_isNone, failure?_isNone, hage,
    all_eq_of_rel h.tags fun f g hfg => hfg.passes_eq htags,
    all_eq_of_rel h.languages fun f g hfg => hfg.passes_eq hlanguages,
    all_eq_of_rel h.ethnicities fun f g hfg => hfg.passes_eq hethnicities]

end Persons

/-! ## 5. Windows -/

/-- Two windows that differ in how their days are listed only. -/
structure Window.Reworded [Zones] (w v : Window) : Prop where
  zone_eq : w.zone = v.zone
  start_eq : w.start = v.start
  stop_eq : w.stop = v.stop
  days : Option.Rel (Relisted Eq) w.days v.days

theorem Window.Reworded.contains_eq [Zones] {w v : Window} (h : w.Reworded v) (tenant : Zone)
    (now : Instant) : w.contains tenant now = v.contains tenant now := by
  have hallows : w.allows = v.allows := by
    funext d
    refine all_eq_of_rel h.days fun days others hdays => ?_
    rw [List.contains_eq_any_beq, List.contains_eq_any_beq]
    exact hdays.any_eq fun x y hxy => congrArg (d == ·) hxy
  unfold contains covers
  rw [h.zone_eq, h.start_eq, h.stop_eq, hallows]

/-! ## 6. Evaluations -/

section Evaluations

variable [Zones]

/-- **Two conditions that differ only** in how their lists are written and how their texts are
    spelled. -/
structure Conditions.Reworded (c other : Conditions) : Prop where
  geography : Option.Rel Geography.Reworded c.geography other.geography
  priceBand : Option.Rel PriceBand.Reworded c.priceBand other.priceBand
  sources : Option.Rel SourceFilter.Reworded c.sources other.sources
  consent_eq : c.consent = other.consent
  representation_eq : c.representation = other.representation
  windows : Option.Rel (Relisted Window.Reworded) c.windows other.windows
  demographics : Option.Rel Demographics.Reworded c.demographics other.demographics
  customFields : Option.Rel (Relisted Eq) c.customFields other.customFields

variable {c other : Conditions} {ctx there : Context}

/-- **Every category passes in both wordings or in neither**, and is there in both or in neither. -/
theorem passes?_reworded (hc : c.Reworded other) (hctx : ctx.Reworded there) (k : Category) :
    c.passes? ctx k = other.passes? there k := by
  unfold Conditions.passes? Conditions.outcome?
  cases k with
  | geography =>
      simp only [Option.map_map]
      exact map_eq_of_rel hc.geography fun g h hgh => hgh.passes_eq hctx.listing
  | priceBand =>
      simp only [Option.map_map]
      exact map_eq_of_rel hc.priceBand fun b d hbd => hbd.passes_eq hctx.listing
  | sources =>
      simp only [Option.map_map]
      exact map_eq_of_rel hc.sources fun f g hfg => hfg.passes_eq hctx.person
  | consent =>
      have hconsent : ∀ d : ConsentCondition, d.failure? ctx.person = d.failure? there.person :=
        fun d => d.failure?_congr hctx.person.consent_eq
      simp only [hc.consent_eq, hconsent]
  | representation =>
      have hdemand : ∀ d : RepresentationDemand, d.failure? ctx.person = d.failure? there.person :=
        fun d => d.failure?_congr hctx.person.representation_eq
      simp only [hc.representation_eq, hdemand]
  | windows =>
      simp only [Option.map_map, hctx.zone_eq, hctx.now_eq]
      refine map_eq_of_rel hc.windows fun ws vs hws => ?_
      simp only [Function.comp_apply, Window.failure?_isNone]
      exact hws.any_eq fun w v hwv => hwv.contains_eq there.zone there.now
  | demographics =>
      simp only [Option.map_map]
      exact map_eq_of_rel hc.demographics fun d e hde => hde.passes_eq hctx.person
  | customFields =>
      simp only [Option.map_map, hctx.person.customFields_eq]
      refine map_eq_of_rel hc.customFields fun ts us hts => ?_
      simp only [Function.comp_apply, FieldTest.failure?_isNone]
      exact hts.all_eq fun t u htu => congrArg (FieldTest.passes · there.person.customFields) htu

/-- **Conditions mean what their lists hold, and texts mean what they spell.** Conditions and
    contexts that differ only in the order and the repetitions of their lists, and in texts that are
    alike, are evaluated to the same categories in the same order with the same outcomes, and match
    together. -/
theorem evaluate_reworded (hc : c.Reworded other) (hctx : ctx.Reworded there) :
    (other.evaluate there).checks.map (fun check => (check.category, check.passed)) =
        (c.evaluate ctx).checks.map (fun check => (check.category, check.passed)) ∧
      (other.evaluate there).matched = (c.evaluate ctx).matched := by
  have hchecks : (other.evaluate there).checks.map (fun check => (check.category, check.passed)) =
      (c.evaluate ctx).checks.map fun check => (check.category, check.passed) := by
    rw [Conditions.checks_passed, Conditions.checks_passed]
    simp only [passes?_reworded hc hctx]
  refine ⟨hchecks, ?_⟩
  rw [Conditions.evaluate_matched, Conditions.evaluate_matched, hchecks]

end Evaluations

/-- Two streets and a source: listed the other way round, one of them twice, and spelled with other
    capitals, with a final sigma and with a blank too many. -/
theorem evaluate_reworded_streets :
    let c : Conditions := { Conditions.none with
      geography := some ⟨some ⟨[], ["ΟΔΟΣ", "Congress"], []⟩, .none⟩
      sources := some ⟨["zillow", "web"], []⟩ }
    let other : Conditions := { Conditions.none with
      geography := some ⟨some ⟨[], ["congress ", "οδος"], []⟩, .none⟩
      sources := some ⟨["zillow", "zillow", "web"], []⟩ }
    let ctx : Context := { Context.at ⟨0, 0⟩ with
      person := { Person.unknown with source := some "Zillow" }
      listing := some ⟨.none, .none, some "Οδος", .none, .none⟩ }
    let there : Context := { Context.at ⟨0, 0⟩ with
      person := { Person.unknown with source := some " ZILLOW" }
      listing := some ⟨.none, .none, some "ΟΔΟΣ", .none, .none⟩ }
    c.Reworded other ∧ ctx.Reworded there ∧
      (c.evaluate ctx).checks.map (fun check => (check.category, check.passed)) =
        [(.geography, true), (.sources, true)] ∧
      (other.evaluate there).checks.map (fun check => (check.category, check.passed)) =
        (c.evaluate ctx).checks.map (fun check => (check.category, check.passed)) ∧
      (other.evaluate there).matched = (c.evaluate ctx).matched := by
  intro c other ctx there
  have hsigma : Alike "ΟΔΟΣ" "οδος" := by decide +kernel
  have hcongress : Alike "Congress" "congress " := by decide +kernel
  have hcities : Relisted Alike ["ΟΔΟΣ", "Congress"] ["congress ", "οδος"] :=
    .trans (.replace (.cons hsigma (.cons hcongress .nil))) (.reorder (List.Perm.swap _ _ _))
  have hsources : Relisted Alike ["zillow", "web"] ["zillow", "zillow", "web"] :=
    .repeated List.mem_cons_self
  have hc : c.Reworded other :=
    { geography := .some ⟨.some ⟨.refl _, hcities, .refl _⟩, .none⟩
      priceBand := .none
      sources := .some ⟨hsources, .refl _⟩
      consent_eq := rfl
      representation_eq := rfl
      windows := .none
      demographics := .none
      customFields := .none }
  have hsource : Alike "Zillow" " ZILLOW" := by decide +kernel
  have hcity : Alike "Οδος" "ΟΔΟΣ" := by decide +kernel
  have hctx : ctx.Reworded there :=
    { now_eq := rfl
      zone_eq := rfl
      person := ⟨.some hsource, rfl, .refl _, rfl, .refl _, .refl _, rfl, rfl⟩
      listing := .some ⟨rfl, .none, .some hcity, .none, .none⟩ }
  exact ⟨hc, hctx, by decide +kernel, evaluate_reworded hc hctx⟩

end LeadRouting
