import LeadRouting.Proofs.Decision

/-!
# The first match decides

The candidates of a rule set are sorted by a test on two rules and searched from the front. This
file says in which order that is, down to rules that agree in priority and id, and what the search
makes of it.

* `Rule.trialKey` -- what rules are tried by; `placedKey` adds the place in the set;
* `TrialOrder rules order` -- the SPECIFICATION of the order: the enabled rules with their places,
  strictly ascending by priority, id and place. There is one such order (`trialOrder_trials`) and no
  other one (`TrialOrder.eq`), and the candidates stand in it (`map_trials`);
* `FirstMatchWins ctx r order` -- what a decision owes to that order, one rule for each thing that
  can become of a lead;
* **`route_firstMatch`** -- every decision of every router owes that;
* `Router.tryEach` -- the candidates tried one by one, with the verdicts on those that failed;
  `route_eq_tryEach` says that a router can decide so and stop at the first match.
-/

namespace LeadRouting

variable [Zones]

/-! ## 1. The order in which rules are tried -/

/-- What rules are tried by: ascending priority, then ascending id. -/
def Rule.trialKey (rule : Rule) : Int ×ₗ String := toLex (rule.priority.toInt, rule.id)

theorem triedBefore_iff_key (a b : Rule) :
    RuleSet.triedBefore a b = true ↔ a.trialKey ≤ b.trialKey := by
  unfold RuleSet.triedBefore Rule.trialKey
  rw [Prod.Lex.toLex_le_toLex]
  simp only [Bool.or_eq_true, Bool.and_eq_true, decide_eq_true_eq, Int32.lt_iff_toInt_lt,
    ← Int32.toInt_inj]

/-- What rules with a place are tried by: priority and id, then the place. -/
def placedKey (t : Rule × Nat) : (Int ×ₗ String) ×ₗ Nat := toLex (t.1.trialKey, t.2)

/-- The test of the stable sort, which goes by the place where two rules agree. -/
theorem zipIdxLE_iff_key (a b : Rule × Nat) :
    List.zipIdxLE RuleSet.triedBefore a b = true ↔ placedKey a ≤ placedKey b := by
  unfold List.zipIdxLE placedKey
  rw [Prod.Lex.toLex_le_toLex]
  simp only [triedBefore_iff_key]
  rcases lt_trichotomy a.1.trialKey b.1.trialKey with hlt | heq | hgt
  · simp [hlt, hlt.le, hlt.not_ge]
  · simp [heq]
  · simp [hgt.not_ge, hgt.not_gt, hgt.ne']

/-- **The enabled rules of a set in the order in which they are tried**: ascending by priority, then
    by id, then by the place among the enabled rules of the set, which stands beside each. -/
structure TrialOrder (rules : RuleSet) (order : List (Rule × Nat)) : Prop where
  perm : order.Perm (rules.rules.filter Rule.enabled).zipIdx
  ascending : order.Pairwise fun a b => placedKey a < placedKey b

/-- There is one order at most. -/
theorem TrialOrder.eq {rules : RuleSet} {order other : List (Rule × Nat)}
    (h : TrialOrder rules order) (h' : TrialOrder rules other) : order = other := by
  refine List.Perm.eq_of_pairwise ?_ h.ascending h'.ascending (h.perm.trans h'.perm.symm)
  intro a b _ _ hab hba
  exact absurd hab hba.asymm

/-- The candidates of a set with their places among the enabled rules. -/
def RuleSet.trials (rules : RuleSet) : List (Rule × Nat) :=
  (rules.rules.filter Rule.enabled).zipIdx.mergeSort (List.zipIdxLE triedBefore)

/-- **The candidates stand in the order of the trials**: the sort keeps rules apart that agree. -/
theorem map_trials (rules : RuleSet) : rules.trials.map Prod.fst = rules.candidates :=
  List.mergeSort_zipIdx

theorem trialOrder_trials (rules : RuleSet) : TrialOrder rules rules.trials where
  perm := List.mergeSort_perm _ _
  ascending := by
    have hplaces : (rules.trials.map Prod.snd).Nodup := by
      refine ((List.mergeSort_perm _ _).map Prod.snd).nodup_iff.mpr ?_
      rw [List.zipIdx_map_snd]
      exact List.nodup_range'
    have hsorted := pairwise_mergeSort_of_key zipIdxLE_iff_key
      (rules.rules.filter Rule.enabled).zipIdx
    refine List.Pairwise.imp₂ ?_ hsorted (List.pairwise_map.mp hplaces)
    intro a b hle hne
    refine lt_of_le_of_ne hle fun hkey => hne ?_
    have hpair : (a.1.trialKey, a.2) = (b.1.trialKey, b.2) := toLex.injective hkey
    exact (Prod.mk.inj hpair).2

/-! ## 2. The first match -/

theorem Rule.pond?_eq_some_iff {rule : Rule} {id : String} :
    rule.pond? = some id ↔ ∃ rest, rule.targets = .pond id :: rest := by
  unfold Rule.pond?
  constructor
  · intro h
    split at h
    · rename_i pondId rest htargets
      obtain rfl : pondId = id := Option.some.inj h
      exact ⟨rest, htargets⟩
    · cases h
  · rintro ⟨rest, htargets⟩
    rw [htargets]

theorem Rule.pond?_eq_none_iff {rule : Rule} :
    rule.pond? = none ↔ ∀ id rest, rule.targets ≠ .pond id :: rest := by
  rw [Option.eq_none_iff_forall_ne_some]
  simp only [ne_eq, Rule.pond?_eq_some_iff, not_exists]

/-- **What a decision owes to the order of the trials.** The first rule that matches is named with
    its evaluation, and it leads to a pond exactly where its first target is one; where none matches
    the evaluations of all are listed in their order, and the request falls back. -/
inductive FirstMatchWins (ctx : Context) (r : LeadRequest) (order : List (Rule × Nat)) :
    Decision → Prop where
  | routed (before after : List (Rule × Nat)) (rule : Rule) (place : Nat) (sel : Selection)
      (hsplit : order = before ++ (rule, place) :: after)
      (hearlier : ∀ t ∈ before, t.1.isMatch ctx = false) (hmatch : rule.isMatch ctx = true)
      (hpond : ∀ id rest, rule.targets ≠ .pond id :: rest) :
      FirstMatchWins ctx r order (.routed rule.id (rule.evaluate ctx) sel)
  | pond (before after : List (Rule × Nat)) (rule : Rule) (place : Nat) (id : String)
      (rest : List Target) (hsplit : order = before ++ (rule, place) :: after)
      (hearlier : ∀ t ∈ before, t.1.isMatch ctx = false) (hmatch : rule.isMatch ctx = true)
      (hpond : rule.targets = .pond id :: rest) :
      FirstMatchWins ctx r order (.pond rule.id id (rule.evaluate ctx))
  | unmatched (hnone : ∀ t ∈ order, t.1.isMatch ctx = false) :
      FirstMatchWins ctx r order
        (.unmatched (order.map fun t => ⟨t.1.id, t.1.evaluate ctx⟩)
          ⟨r.leadId, r.tenantId, [], true, r.fallbackTeamId, r.quietHours⟩)

namespace Router

/-- The first match stands in the order of the trials behind rules that do not match. -/
theorem trials_of_firstMatch {rules : RuleSet} {ctx : Context} {rule : Rule}
    (h : firstMatch? rules ctx = some rule) :
    rule.isMatch ctx = true ∧ ∃ before after place, rules.trials = before ++ (rule, place) :: after ∧
      ∀ t ∈ before, t.1.isMatch ctx = false := by
  unfold firstMatch? at h
  obtain ⟨hmatch, earlier, later, hsplit, hearlier⟩ := List.find?_eq_some_iff_append.mp h
  rw [← map_trials] at hsplit
  obtain ⟨before, back, htrials, rfl, hback⟩ := List.map_eq_append_iff.mp hsplit
  obtain ⟨⟨other, place⟩, after, rfl, rfl, -⟩ := List.map_eq_cons_iff.mp hback
  refine ⟨hmatch, before, after, place, htrials, fun t ht => ?_⟩
  have ht := hearlier t.1 (List.mem_map_of_mem ht)
  simpa using ht

theorem trials_of_none {rules : RuleSet} {ctx : Context} (h : firstMatch? rules ctx = none) :
    ∀ t ∈ rules.trials, t.1.isMatch ctx = false := by
  intro t ht
  have hcandidate : t.1 ∈ rules.candidates := by
    rw [← map_trials]
    exact List.mem_map_of_mem ht
  obtain ⟨hm, henabled⟩ := RuleSet.mem_candidates.mp hcandidate
  exact (firstMatch?_eq_none_iff rules ctx).mp h t.1 hm henabled

/-- **The first match decides.** The enabled rules of every set have one order by priority, id and
    place, and every decision owes to it what `FirstMatchWins` says; a rule is named exactly where
    some enabled rule matches. -/
theorem route_firstMatch {σ : Type} (router : Router σ) (rules : RuleSet) (ctx : Context)
    (r : LeadRequest) (s : σ) :
    ∃ order, TrialOrder rules order ∧ (∀ other, TrialOrder rules other → other = order) ∧
      FirstMatchWins ctx r order (router.route rules ctx r s).1 ∧
      ((router.route rules ctx r s).1.ruleId? ≠ none ↔
        ∃ rule ∈ rules.rules, rule.enabled = true ∧ rule.isMatch ctx = true) := by
  refine ⟨rules.trials, trialOrder_trials rules, fun other h => h.eq (trialOrder_trials rules), ?_⟩
  obtain ⟨hfirst, hroute⟩ | ⟨rule, id, hfirst, hpond, hroute⟩ | ⟨rule, hfirst, hpond, hroute⟩ :=
    route_cases router rules ctx r s
  · have hverdicts : rules.candidates.map (Rule.verdict ctx) =
        rules.trials.map fun t => ⟨t.1.id, t.1.evaluate ctx⟩ := by
      rw [← map_trials, List.map_map]
      rfl
    rw [hroute, hverdicts]
    refine ⟨.unmatched (trials_of_none hfirst), ?_⟩
    have hnone := (firstMatch?_eq_none_iff rules ctx).mp hfirst
    refine iff_of_false (fun hne => hne rfl) ?_
    rintro ⟨rule, hm, henabled, hmatch⟩
    rw [hnone rule hm henabled] at hmatch
    cases hmatch
  · obtain ⟨hmatch, before, after, place, hsplit, hearlier⟩ := trials_of_firstMatch hfirst
    obtain ⟨rest, htargets⟩ := Rule.pond?_eq_some_iff.mp hpond
    rw [hroute]
    refine ⟨.pond before after rule place id rest hsplit hearlier hmatch htargets, ?_⟩
    exact iff_of_true (Option.some_ne_none _) ⟨rule, mem_of_firstMatch hfirst⟩
  · obtain ⟨hmatch, before, after, place, hsplit, hearlier⟩ := trials_of_firstMatch hfirst
    have htargets : ∀ id rest, rule.targets ≠ .pond id :: rest := by
      intro id rest e
      rw [Rule.pond?_eq_some_iff.mpr ⟨rest, e⟩] at hpond
      cases hpond
    rw [hroute]
    refine ⟨.routed before after rule place _ hsplit hearlier hmatch htargets, ?_⟩
    exact iff_of_true (Option.some_ne_none _) ⟨rule, mem_of_firstMatch hfirst⟩

/-! ## 3. One by one -/

section OneByOne

variable {σ : Type} (router : Router σ) (ctx : Context) (r : LeadRequest) (s : σ)

/-- The candidates tried one by one, after others with the given verdicts have failed. -/
def tryEach (failed : List RuleVerdict) : List Rule → Decision × σ
  | [] => (.unmatched failed (.fallback r), s)
  | rule :: rest =>
    if rule.isMatch ctx then router.decideBy rule ctx r s
    else tryEach (failed ++ [rule.verdict ctx]) rest

/-- What comes of the candidates that are left: the first match decides, or all verdicts are
    listed, those on earlier ones first. -/
theorem tryEach_eq (failed : List RuleVerdict) (rest : List Rule) :
    router.tryEach ctx r s failed rest =
      match rest.find? fun rule => rule.isMatch ctx with
      | some rule => router.decideBy rule ctx r s
      | none => (.unmatched (failed ++ rest.map (Rule.verdict ctx)) (.fallback r), s) := by
  induction rest generalizing failed with
  | nil => rw [tryEach, List.find?_nil, List.map_nil, List.append_nil]
  | cons rule rest ih =>
      unfold tryEach
      cases hmatch : rule.isMatch ctx with
      | true => simp only [List.find?_cons, hmatch, if_true]
      | false =>
          simp only [List.find?_cons, hmatch, Bool.false_eq_true, if_false, ih, List.map_cons,
            List.append_assoc, List.singleton_append]

/-- **A router decides as if it tried the candidates one by one** and stopped at the first match. -/
theorem route_eq_tryEach (rules : RuleSet) :
    router.route rules ctx r s = router.tryEach ctx r s [] rules.candidates := by
  rw [tryEach_eq, List.nil_append]
  rfl

end OneByOne

end Router

end LeadRouting
