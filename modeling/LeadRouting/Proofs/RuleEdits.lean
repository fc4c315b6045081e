import Mathlib.Logic.Relation
import LeadRouting.Proofs.FirstMatch
import LeadRouting.Proofs.Offering

/-!
# What in a rule set a decision depends on

A rule set is a list that people add to, take from and put in another order. This file says which
of that a router cannot notice, where ids are not repeated.

* `firstMatch?_eq_some_iff` -- **the first match is the least rule that is enabled and matches**, a
  fact about the rules as a set;
* `Edit p`, `Edited p` -- one insertion, deletion or replacement of a rule with the property `p`,
  and any number of them; what fails `p` everywhere stays as it is (`Edited.filter_eq`);
* `Router.SameOn` -- a router decides, asks and remembers the same with two rule sets;
* **`Router.sameOn_of_edits`** -- so it is with the rules in another order, with any edits of
  disabled rules, and with any edits behind the first match.
-/

namespace LeadRouting

/-! ## 1. The least rule that matches -/

theorem RuleSet.candidates_pairwise [Zones] (rules : RuleSet) :
    rules.candidates.Pairwise fun a b => a.trialKey ≤ b.trialKey :=
  pairwise_mergeSort_of_key triedBefore_iff_key _

/-- Where ids are not repeated no two rules are tried by one key. -/
theorem Rule.eq_of_trialKey [Zones] {rules : List Rule} (hids : (rules.map Rule.id).Nodup)
    {a b : Rule} (ha : a ∈ rules) (hb : b ∈ rules) (h : a.trialKey = b.trialKey) : a = b := by
  have hpair : (a.priority.toInt, a.id) = (b.priority.toInt, b.id) := toLex.injective h
  exact List.inj_on_of_nodup_map hids ha hb (Prod.mk.inj hpair).2

namespace Router

variable [Zones] {rules others : RuleSet} {ctx : Context} {rule : Rule}

/-- The first match is not behind any rule that is enabled and matches. -/
theorem trialKey_le_of_firstMatch (h : firstMatch? rules ctx = some rule) {other : Rule}
    (hm : other ∈ rules.rules) (henabled : other.enabled = true)
    (hmatch : other.isMatch ctx = true) : rule.trialKey ≤ other.trialKey := by
  obtain ⟨-, earlier, later, hsplit, hearlier⟩ := List.find?_eq_some_iff_append.mp h
  have hcandidate : other ∈ earlier ++ rule :: later :=
    hsplit ▸ RuleSet.mem_candidates.mpr ⟨hm, henabled⟩
  rcases List.mem_append.mp hcandidate with hother | hother
  · have hfails := hearlier other hother
    rw [hmatch] at hfails
    cases hfails
  · have hsorted := rules.candidates_pairwise
    rw [hsplit] at hsorted
    obtain ⟨hbehind, -⟩ := List.pairwise_cons.mp (List.pairwise_append.mp hsorted).2.1
    rcases List.mem_cons.mp hother with rfl | hother
    · exact le_refl _
    · exact hbehind other hother

/-- **The first match is the least rule that is enabled and matches**: where ids are not repeated
    it does not depend on how the rules are listed. -/
theorem firstMatch?_eq_some_iff (hids : (rules.rules.map Rule.id).Nodup) :
    firstMatch? rules ctx = some rule ↔
      rule ∈ rules.rules ∧ rule.enabled = true ∧ rule.isMatch ctx = true ∧
        ∀ other ∈ rules.rules, other.enabled = true → other.isMatch ctx = true →
          rule.trialKey ≤ other.trialKey := by
  constructor
  · intro h
    obtain ⟨hm, henabled, hmatch⟩ := mem_of_firstMatch h
    exact ⟨hm, henabled, hmatch, fun other hother => trialKey_le_of_firstMatch h hother⟩
  · rintro ⟨hm, henabled, hmatch, hleast⟩
    cases hfirst : firstMatch? rules ctx with
    | none =>
        have hfails := (firstMatch?_eq_none_iff rules ctx).mp hfirst rule hm henabled
        rw [hmatch] at hfails
        cases hfails
    | some first =>
        obtain ⟨hfm, hfe, hfirstMatch⟩ := mem_of_firstMatch hfirst
        have hle := trialKey_le_of_firstMatch hfirst hm henabled hmatch
        have hge := hleast first hfm hfe hfirstMatch
        rw [Rule.eq_of_trialKey hids hfm hm (le_antisymm hle hge)]

end Router

/-! ## 2. Edits -/

/-- **One edit of a list of rules**: a rule with the property `p` is put in, taken out or replaced by
    another one with the property. -/
inductive Edit [Zones] (p : Rule → Prop) : List Rule → List Rule → Prop where
  | insert (before after : List Rule) (rule : Rule) (h : p rule) :
      Edit p (before ++ after) (before ++ rule :: after)
  | delete (before after : List Rule) (rule : Rule) (h : p rule) :
      Edit p (before ++ rule :: after) (before ++ after)
  | replace (before after : List Rule) (old new : Rule) (hold : p old) (hnew : p new) :
      Edit p (before ++ old :: after) (before ++ new :: after)

/-- Any number of edits. -/
def Edited [Zones] (p : Rule → Prop) : List Rule → List Rule → Prop :=
  Relation.ReflTransGen (Edit p)

section Edits

variable [Zones] {p : Rule → Prop} {q : Rule → Bool} {xs ys : List Rule}

theorem Edit.filter_eq (h : Edit p xs ys) (hq : ∀ rule, p rule → q rule = false) :
    ys.filter q = xs.filter q := by
  cases h with
  | insert before after rule h => simp [hq rule h]
  | delete before after rule h => simp [hq rule h]
  | replace before after old new hold hnew => simp [hq old hold, hq new hnew]

/-- **What no edit is about stays as it is**, in the order in which it is listed. -/
theorem Edited.filter_eq (h : Edited p xs ys) (hq : ∀ rule, p rule → q rule = false) :
    ys.filter q = xs.filter q := by
  induction h with
  | refl => rfl
  | tail _ hedit ih => rw [hedit.filter_eq hq, ih]

end Edits

/-! ## 3. Rule sets that a router cannot tell apart -/

namespace Router

section Same

variable [Zones] {σ : Type} {router : Router σ} {rules others : RuleSet} {ctx : Context}
  {r : LeadRequest} {first : Rule}

/-- **A router does the same with two rule sets** on a lead, whatever its rotation remembers: it
    decides the same, its rotation remembers the same then, and is offered the same. -/
structure SameOn (router : Router σ) (ctx : Context) (r : LeadRequest) (rules others : RuleSet) :
    Prop where
  route_eq : ∀ s, router.route others ctx r s = router.route rules ctx r s
  recorded_eq : ∀ s offers, router.recorded.route others ctx r (s, offers) =
    router.recorded.route rules ctx r (s, offers)

theorem route_of_candidates (h : others.candidates = rules.candidates) (s : σ) :
    router.route others ctx r s = router.route rules ctx r s := by
  unfold route firstMatch?
  rw [h]

/-- The candidates are all that a router sees of a rule set. -/
theorem sameOn_of_candidates (h : others.candidates = rules.candidates) :
    router.SameOn ctx r rules others where
  route_eq := route_of_candidates h
  recorded_eq s offers := route_of_candidates h (s, offers)

theorem sameOn_of_firstMatch (h : firstMatch? rules ctx = some first)
    (hothers : firstMatch? others ctx = some first) : router.SameOn ctx r rules others where
  route_eq s := by rw [route_of_firstMatch h, route_of_firstMatch hothers]
  recorded_eq s offers := by rw [route_of_firstMatch h, route_of_firstMatch hothers]

theorem candidates_of_perm (hids : (rules.rules.map Rule.id).Nodup)
    (hperm : others.rules.Perm rules.rules) : others.candidates = rules.candidates := by
  have hkey : ∀ a ∈ rules.rules.filter Rule.enabled, ∀ b ∈ rules.rules.filter Rule.enabled,
      a.trialKey = b.trialKey → a = b := by
    intro a ha b hb hab
    exact Rule.eq_of_trialKey hids (List.mem_of_mem_filter ha) (List.mem_of_mem_filter hb) hab
  exact (mergeSort_eq_of_perm triedBefore_iff_key hkey (hperm.symm.filter Rule.enabled)).symm

theorem candidates_of_edited
    (hedits : Edited (fun rule => rule.enabled = false) rules.rules others.rules) :
    others.candidates = rules.candidates := by
  unfold RuleSet.candidates
  rw [hedits.filter_eq fun rule h => h]

/-- **Behind the first match, and among disabled rules, edits do not change the first match.** -/
theorem firstMatch?_of_edited (hfirst : firstMatch? rules ctx = some first)
    (hids : (others.rules.map Rule.id).Nodup)
    (hedits : Edited (fun rule => rule.enabled = false ∨ first.trialKey < rule.trialKey)
      rules.rules others.rules) : firstMatch? others ctx = some first := by
  -- no edit touches the enabled rules that are tried up to the first match
  have hfront : others.rules.filter (fun rule => rule.enabled && rule.trialKey ≤ first.trialKey) =
      rules.rules.filter (fun rule => rule.enabled && rule.trialKey ≤ first.trialKey) := by
    refine hedits.filter_eq fun rule hrule => ?_
    rcases hrule with hdisabled | hbehind
    · rw [hdisabled, Bool.false_and]
    · rw [decide_eq_false hbehind.not_ge, Bool.and_false]
  have hmem : ∀ rule : Rule, rule.enabled = true → rule.trialKey ≤ first.trialKey →
      (rule ∈ others.rules ↔ rule ∈ rules.rules) := by
    intro rule henabled hle
    have hfilter := congrArg (rule ∈ ·) hfront
    simpa [List.mem_filter, henabled, hle] using hfilter
  obtain ⟨hm, henabled, hmatch⟩ := mem_of_firstMatch hfirst
  refine (firstMatch?_eq_some_iff hids).mpr ⟨(hmem first henabled (le_refl _)).mpr hm, henabled,
    hmatch, fun other hother hoe hom => ?_⟩
  rcases le_total first.trialKey other.trialKey with hle | hle
  · exact hle
  · exact trialKey_le_of_firstMatch hfirst ((hmem other hoe hle).mp hother) hoe hom

/-- **What a router does not notice of a rule set** without repeated ids: (1) in which order its
    rules are listed; (2) any insertions, deletions and replacements of disabled rules; (3) where
    some rule matches, any of those behind the first match by priority and id, as long as ids are
    not repeated. -/
theorem sameOn_of_edits (router : Router σ) (ctx : Context) (r : LeadRequest)
    (hids : (rules.rules.map Rule.id).Nodup) :
    (∀ others : RuleSet, others.rules.Perm rules.rules → router.SameOn ctx r rules others) ∧
    (∀ others : RuleSet, Edited (fun rule => rule.enabled = false) rules.rules others.rules →
      router.SameOn ctx r rules others) ∧
    ∀ first, firstMatch? rules ctx = some first → ∀ others : RuleSet,
      Edited (fun rule => rule.enabled = false ∨ first.trialKey < rule.trialKey)
        rules.rules others.rules →
      (others.rules.map Rule.id).Nodup → router.SameOn ctx r rules others := by
  refine ⟨fun others hperm => ?_, fun others hedits => ?_, fun first hfirst others hedits hkept => ?_⟩
  · exact sameOn_of_candidates (candidates_of_perm hids hperm)
  · exact sameOn_of_candidates (candidates_of_edited hedits)
  · exact sameOn_of_firstMatch hfirst (firstMatch?_of_edited hfirst hkept hedits)

end Same

/-- The eastern rule decides. A rule that is asleep may be listed in front of it and may be changed,
    and a rule that is tried later may be put in front of both. -/
theorem sameOn_of_edits_east :
    let asleep := { Example.rule with id := "north", priority := 0, enabled := false }
    let behind := { Example.rule with id := "west", priority := 2 }
    let rules : RuleSet := ⟨[Example.rule, asleep]⟩
    let r := Example.request [Example.agent "ann" 2 (some 3), Example.agent "bob" 2 (some 1)]
    let router : Router Turns := ⟨.standard, some Turns.rotation⟩
    (rules.rules.map Rule.id).Nodup ∧ firstMatch? rules Example.context = some Example.rule ∧
      router.SameOn Example.context r rules ⟨[asleep, Example.rule]⟩ ∧
      router.SameOn Example.context r rules ⟨[Example.rule, { asleep with targets := [] }]⟩ ∧
      router.SameOn Example.context r rules ⟨[behind, Example.rule, asleep]⟩ := by
  intro asleep behind rules r router
  have hids : (rules.rules.map Rule.id).Nodup := by decide
  have hfirst : firstMatch? rules Example.context = some Example.rule := by
    rw [firstMatch?_eq_some_iff hids]
    refine ⟨List.mem_cons_self, rfl, rfl, fun other hm henabled _ => ?_⟩
    rcases List.mem_cons.mp hm with rfl | hm
    · exact le_refl _
    · rw [List.mem_singleton.mp hm] at henabled
      cases henabled
  obtain ⟨hlisted, hasleep, hbehind⟩ := sameOn_of_edits router Example.context r hids
  refine ⟨hids, hfirst, hlisted _ (List.Perm.swap _ _ _), hasleep _ ?_,
    hbehind Example.rule hfirst _ ?_ (by decide)⟩
  · exact .single (.replace [Example.rule] [] asleep _ rfl rfl)
  · exact .single (.insert [] _ behind (.inr (by decide)))

end Router

end LeadRouting
