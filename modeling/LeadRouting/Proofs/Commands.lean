import LeadRouting.Command.Request
import LeadRouting.Proofs.Separation
import LeadRouting.Time.ListedZone

/-!
# The two commands agree

Whoever wonders why a lead was routed as it was asks the command `evaluate`. This file says that
what it shows is what the command `route` goes by.

* `evaluateCommand_all`, `routeCommand_ruled` -- both commands read the context in one way first and
  fail with it, whatever the rules are;
* `Decision.Follows d verdicts` -- what a decision owes to a list of verdicts: it names the first
  one that matched, or lists them all where none did;
* `Router.route_follows` -- every decision owes that to the verdicts on the candidates;
* `RuleSet.filter_verdicts_eq` -- without repeated ids each enabled rule has one verdict among them;
* **`evaluate_agrees`** -- so the three modes of `evaluate` and the command `route` agree.
-/

namespace LeadRouting

/-! ## 1. What the commands make of a context -/

/-- Null is no context. -/
theorem contextFor_null [Zones] (tenant : Zone) : contextFor tenant .null = .error .badContext :=
  rfl

/-- Without the id of a rule and without conditions, `evaluate` shows the verdicts on all
    candidates. -/
theorem evaluateCommand_all [Zones] (rules : RuleSet) (v : Json) (tenant : Zone) :
    evaluateCommand (some rules) ⟨v, none, none⟩ tenant =
      (contextFor tenant v).map fun ctx => rules.candidates.map (Rule.verdict ctx) := by
  unfold evaluateCommand
  cases contextFor tenant v with
  | error fault => rfl
  | ok ctx => rfl

/-- With the id of a rule, `evaluate` shows the verdict on that rule. -/
theorem evaluateCommand_rule [Zones] {rules : RuleSet} {id : String} {rule : Rule}
    (h : rules.get? id = some rule) (v : Json) (tenant : Zone) :
    evaluateCommand (some rules) ⟨v, some id, none⟩ tenant =
      (contextFor tenant v).map fun ctx => [rule.verdict ctx] := by
  unfold evaluateCommand
  cases contextFor tenant v with
  | error fault => rfl
  | ok ctx =>
      have hverdicts :
          verdictsFor (some rules) ⟨v, some id, none⟩ ctx = .ok [rule.verdict ctx] := by
        unfold verdictsFor
        simp only [h]
      exact hverdicts

/-- With conditions, `evaluate` shows what comes of them, whatever the rules are. -/
theorem evaluateCommand_inline [Zones] (loaded : Option RuleSet) (asked : Option String)
    (c : Conditions) (v : Json) (tenant : Zone) :
    evaluateCommand loaded ⟨v, asked, some c⟩ tenant =
      (contextFor tenant v).map fun ctx => [⟨"inline", c.evaluate ctx⟩] := by
  unfold evaluateCommand
  cases contextFor tenant v with
  | error fault => rfl
  | ok ctx => rfl

theorem checkedInput_of_valid {r : LeadRequest} (h : r.fault? = none) : checkedInput r = .ok r := by
  unfold checkedInput
  rw [h]

section Route

variable [Zones] {settings : Settings} {tenant : Zone} {input : LeadRequest}

theorem routeContext_some (hzone : settings.zone = .ok tenant) (v : Json) (input : LeadRequest) :
    routeContext ⟨some v, input⟩ settings = contextFor tenant v := by
  unfold routeContext
  rw [hzone]
  rfl

/-- With a request and a zone that are valid, `route` decides as a router without a rotation. -/
theorem routeCommand_ruled (hzone : settings.zone = .ok tenant) (hinput : input.fault? = none)
    (rules : RuleSet) (v : Json) :
    routeCommand (some rules) ⟨some v, input⟩ settings = (contextFor tenant v).map fun ctx =>
      .ruled ((Router.plain settings.policy).route rules ctx input ()).1 := by
  unfold routeCommand
  rw [checkedInput_of_valid hinput, routeContext_some hzone]
  cases contextFor tenant v with
  | error fault => rfl
  | ok ctx => rfl

theorem routeCommand_absent (hinput : input.fault? = none) (rules : RuleSet) (settings : Settings) :
    routeCommand (some rules) ⟨none, input⟩ settings = .error .noContext := by
  unfold routeCommand
  rw [checkedInput_of_valid hinput]
  rfl

end Route

/-! ## 2. Decisions and verdicts -/

/-- The evaluation of the rule that matched. -/
def Decision.evaluation? : Decision → Option Evaluation
  | .routed _ ev _ => some ev
  | .pond _ _ ev => some ev
  | .unmatched _ _ => none

/-- **What a decision owes to a list of verdicts**: it names the rule and the evaluation of the
    first one that matched; it names no rule exactly where none did, and there it lists them all. -/
structure Decision.Follows (d : Decision) (verdicts : List RuleVerdict) : Prop where
  first : ∀ before v after, verdicts = before ++ v :: after →
    (∀ earlier ∈ before, earlier.evaluation.matched = false) → v.evaluation.matched = true →
    d.ruleId? = some v.ruleId ∧ d.evaluation? = some v.evaluation
  ruleId?_eq_none_iff : d.ruleId? = none ↔ ∀ v ∈ verdicts, v.evaluation.matched = false
  unmatched_iff : d.grounds = .unmatched verdicts ↔ ∀ v ∈ verdicts, v.evaluation.matched = false

namespace Router

variable [Zones] {σ : Type} {rules : RuleSet} {ctx : Context}

/-- The first verdict that matched is that on the first match. -/
theorem firstMatch?_of_verdicts {before after : List RuleVerdict} {v : RuleVerdict}
    (hsplit : rules.candidates.map (Rule.verdict ctx) = before ++ v :: after)
    (hearlier : ∀ earlier ∈ before, earlier.evaluation.matched = false)
    (hmatched : v.evaluation.matched = true) :
    ∃ rule, firstMatch? rules ctx = some rule ∧ rule.verdict ctx = v := by
  obtain ⟨earlier, back, hcandidates, rfl, hback⟩ := List.map_eq_append_iff.mp hsplit
  obtain ⟨rule, later, rfl, rfl, -⟩ := List.map_eq_cons_iff.mp hback
  refine ⟨rule, List.find?_eq_some_iff_append.mpr ⟨hmatched, earlier, later, hcandidates, ?_⟩, rfl⟩
  intro other hother
  have hfails : other.isMatch ctx = false :=
    hearlier (other.verdict ctx) (List.mem_map_of_mem hother)
  rw [hfails, Bool.not_false]

/-- No verdict matched exactly where there is no first match. -/
theorem firstMatch?_eq_none_iff_verdicts : firstMatch? rules ctx = none ↔
    ∀ v ∈ rules.candidates.map (Rule.verdict ctx), v.evaluation.matched = false := by
  unfold firstMatch?
  rw [List.find?_eq_none, List.forall_mem_map]
  simp only [Bool.not_eq_true]
  rfl

/-- A decision that names the first match follows the verdicts. -/
theorem follows_of_firstMatch {d : Decision} {rule : Rule}
    (hfirst : firstMatch? rules ctx = some rule) (hid : d.ruleId? = some rule.id)
    (hev : d.evaluation? = some (rule.evaluate ctx)) :
    d.Follows (rules.candidates.map (Rule.verdict ctx)) := by
  have hsome : ¬ ∀ v ∈ rules.candidates.map (Rule.verdict ctx), v.evaluation.matched = false := by
    rw [← firstMatch?_eq_none_iff_verdicts, hfirst]
    exact Option.some_ne_none rule
  refine ⟨fun before v after hsplit hearlier hmatched => ?_, iff_of_false ?_ hsome,
    iff_of_false ?_ hsome⟩
  · obtain ⟨other, hother, rfl⟩ := firstMatch?_of_verdicts hsplit hearlier hmatched
    obtain rfl : other = rule := Option.some.inj (hother.symm.trans hfirst)
    exact ⟨hid, hev⟩
  · rw [hid]
    exact Option.some_ne_none rule.id
  · intro hgrounds
    cases d with
    | routed id ev sel => cases hgrounds
    | pond id pondId ev => cases hgrounds
    | unmatched verdicts sel => cases hid

/-- **Every decision follows the verdicts on the candidates.** -/
theorem route_follows (router : Router σ) (rules : RuleSet) (ctx : Context) (r : LeadRequest)
    (s : σ) :
    (router.route rules ctx r s).1.Follows (rules.candidates.map (Rule.verdict ctx)) := by
  obtain ⟨hfirst, hroute⟩ | ⟨rule, id, hfirst, -, hroute⟩ | ⟨rule, hfirst, -, hroute⟩ :=
    route_cases router rules ctx r s
  · have hnone := firstMatch?_eq_none_iff_verdicts.mp hfirst
    rw [hroute]
    refine ⟨fun before v after hsplit _ hmatched => ?_, iff_of_true rfl hnone,
      iff_of_true rfl hnone⟩
    have hfails := hnone v (hsplit ▸ List.mem_append_right before List.mem_cons_self)
    rw [hmatched] at hfails
    cases hfails
  · rw [hroute]
    exact follows_of_firstMatch hfirst rfl rfl
  · rw [hroute]
    exact follows_of_firstMatch hfirst rfl rfl

end Router

/-! ## 3. One rule among the verdicts -/

/-- **Without repeated ids each enabled rule has one verdict**, that on its own conditions. -/
theorem RuleSet.filter_verdicts_eq [Zones] {rules : RuleSet} {rule : Rule}
    (hids : (rules.rules.map Rule.id).Nodup) (hm : rule ∈ rules.rules)
    (henabled : rule.enabled = true) (ctx : Context) :
    (rules.candidates.map (Rule.verdict ctx)).filter (fun v => v.ruleId = rule.id) =
      [rule.verdict ctx] := by
  have hcandidates : (rules.candidates.map Rule.id).Nodup := by
    rw [(rules.candidates_perm.map Rule.id).nodup_iff]
    exact (List.filter_sublist.map Rule.id).nodup hids
  have hverdicts : ((rules.candidates.map (Rule.verdict ctx)).map RuleVerdict.ruleId).Nodup := by
    rw [List.map_map]
    exact hcandidates
  have hmem : rule ∈ rules.candidates := RuleSet.mem_candidates.mpr ⟨hm, henabled⟩
  have hsingle := filter_eq_singleton_of_nodup hverdicts (List.mem_map_of_mem hmem)
  exact hsingle

/-- A rule with conditions is evaluated as its conditions are. -/
theorem Rule.evaluate_of_some [Zones] {rule : Rule} {c : Conditions} (h : rule.conditions = some c)
    (ctx : Context) : rule.evaluate ctx = c.evaluate ctx := by
  unfold Rule.evaluate
  rw [h]
  rfl

theorem RuleSet.get?_of_nodup [Zones] {rules : RuleSet} {rule : Rule}
    (hids : (rules.rules.map Rule.id).Nodup) (hm : rule ∈ rules.rules) :
    rules.get? rule.id = some rule := find?_eq_some_of_nodup hids hm

/-! ## 4. Agreement -/

section Agreement

variable [Zones] {settings : Settings} {tenant : Zone} {input : LeadRequest}

/-- With a request and a zone that are valid, `route` fails with the context only, and follows what
    `evaluate` shows; a context that is left out counts as null. -/
theorem routeCommand_follows (hzone : settings.zone = .ok tenant) (hinput : input.fault? = none)
    (rules : RuleSet) {v : Json} {given : Option Json} (hgiven : given.getD .null = v) :
    ((∃ fault, evaluateCommand (some rules) ⟨v, none, none⟩ tenant = .error fault) ↔
      ∃ fault, routeCommand (some rules) ⟨given, input⟩ settings = .error fault) ∧
    ∀ verdicts, evaluateCommand (some rules) ⟨v, none, none⟩ tenant = .ok verdicts →
      ∃ d, routeCommand (some rules) ⟨given, input⟩ settings = .ok (.ruled d) ∧
        d.Follows verdicts := by
  rw [evaluateCommand_all]
  cases given with
  | none =>
      obtain rfl : Json.null = v := hgiven
      rw [contextFor_null, routeCommand_absent hinput]
      refine ⟨iff_of_true ⟨_, rfl⟩ ⟨_, rfl⟩, fun verdicts h => ?_⟩
      cases h
  | some w =>
      obtain rfl : w = v := hgiven
      rw [routeCommand_ruled hzone hinput]
      cases contextFor tenant w with
      | error fault =>
          refine ⟨iff_of_true ⟨fault, rfl⟩ ⟨fault, rfl⟩, fun verdicts h => ?_⟩
          cases h
      | ok ctx =>
          refine ⟨iff_of_false ?_ ?_, fun verdicts h => ?_⟩
          · rintro ⟨fault, h⟩
            cases h
          · rintro ⟨fault, h⟩
            cases h
          · obtain rfl : rules.candidates.map (Rule.verdict ctx) = verdicts := Except.ok.inj h
            exact ⟨_, rfl, Router.route_follows _ rules ctx input ()⟩

/-- **What `evaluate` shows is what `route` goes by.** Let `shown` be what `evaluate` answers for a
    rule set and a context alone. (1) With a zone and a request that are valid `route` fails exactly
    where `evaluate` does, a context that is left out counting as null; otherwise its decision
    follows the verdicts. (2) Where no id is repeated each enabled rule has one verdict among them:
    it is the answer of `evaluate` for the id of the rule, and the answer for its conditions but for
    the id, which is `inline` then. Both fail where the first one does. -/
theorem evaluate_agrees (hzone : settings.zone = .ok tenant) (hinput : input.fault? = none)
    (rules : RuleSet) (v : Json) :
    let shown := evaluateCommand (some rules) ⟨v, none, none⟩ tenant
    (∀ given : Option Json, given.getD .null = v →
      ((∃ fault, shown = .error fault) ↔
        ∃ fault, routeCommand (some rules) ⟨given, input⟩ settings = .error fault) ∧
      ∀ verdicts, shown = .ok verdicts →
        ∃ d, routeCommand (some rules) ⟨given, input⟩ settings = .ok (.ruled d) ∧
          d.Follows verdicts) ∧
    ((rules.rules.map Rule.id).Nodup → ∀ rule ∈ rules.rules, rule.enabled = true →
      (∀ verdicts, shown = .ok verdicts →
        ∃ own, verdicts.filter (fun e => e.ruleId = rule.id) = [own]) ∧
      evaluateCommand (some rules) ⟨v, some rule.id, none⟩ tenant =
        shown.map (fun verdicts => verdicts.filter fun e => e.ruleId = rule.id) ∧
      ∀ c, rule.conditions = some c → ∀ loaded asked,
        evaluateCommand loaded ⟨v, asked, some c⟩ tenant = shown.map fun verdicts =>
          (verdicts.filter fun e => e.ruleId = rule.id).map fun e => ⟨"inline", e.evaluation⟩) := by
  intro shown
  refine ⟨fun given hgiven => routeCommand_follows hzone hinput rules hgiven,
    fun hids rule hm henabled => ?_⟩
  have hshown : shown = (contextFor tenant v).map fun ctx =>
      rules.candidates.map (Rule.verdict ctx) := evaluateCommand_all rules v tenant
  rw [hshown, evaluateCommand_rule (RuleSet.get?_of_nodup hids hm)]
  refine ⟨fun verdicts h => ?_, ?_, fun c hc loaded asked => ?_⟩
  · cases hctx : contextFor tenant v with
    | error fault =>
        rw [hctx] at h
        cases h
    | ok ctx =>
        rw [hctx] at h
        obtain rfl : rules.candidates.map (Rule.verdict ctx) = verdicts := Except.ok.inj h
        exact ⟨rule.verdict ctx, RuleSet.filter_verdicts_eq hids hm henabled ctx⟩
  · cases contextFor tenant v with
    | error fault => rfl
    | ok ctx => exact congrArg Except.ok (RuleSet.filter_verdicts_eq hids hm henabled ctx).symm
  · rw [evaluateCommand_inline]
    cases contextFor tenant v with
    | error fault => rfl
    | ok ctx =>
        have hown := RuleSet.filter_verdicts_eq hids hm henabled ctx
        simp only [Except.map, hown, List.map_singleton, Rule.verdict, Rule.evaluate_of_some hc]

end Agreement

/-- A tenant in Denver with a rule for leads from Zillow and one for all. The context names no zone,
    so that all commands take it in that of the tenant, and writes the source in its own way. -/
theorem evaluate_agrees_denver :
    let tenant : Zone := .denver
    let settings := { Settings.standard with zoneName := "America/Denver" }
    let input := Example.request [Example.agent "ann" 2 none]
    let sources : Conditions := { Conditions.none with sources := some ⟨["zillow"], []⟩ }
    let zillow := { Example.rule with id := "zillow", priority := 0, conditions := some sources }
    let rules : RuleSet := ⟨[Example.rule, zillow]⟩
    let v : Json := .record [("now", .text "2024-05-01T15:00:00Z"),
      ("person", .record [("source", .text " Zillow ")])]
    settings.zone = .ok tenant ∧ input.fault? = none ∧ (rules.rules.map Rule.id).Nodup ∧
      ∃ ctx, contextFor tenant v = .ok ctx ∧ ctx.zone = tenant ∧
        zillow.isMatch ctx = true ∧
        (∃ d, routeCommand (some rules) ⟨some v, input⟩ settings = .ok (.ruled d) ∧
          d.Follows (rules.candidates.map (Rule.verdict ctx))) ∧
        evaluateCommand (some rules) ⟨v, some "zillow", none⟩ tenant =
          .ok [⟨"zillow", zillow.evaluate ctx⟩] ∧
        evaluateCommand none ⟨v, none, some sources⟩ tenant =
          .ok [⟨"inline", zillow.evaluate ctx⟩] := by
  intro tenant settings input sources zillow rules v
  have hzone : settings.zone = .ok tenant := rfl
  have hinput : input.fault? = none := by decide +kernel
  have hids : (rules.rules.map Rule.id).Nodup := by decide
  obtain ⟨ctx, hctx, hctxZone, hmatch⟩ :
      ∃ ctx, contextFor tenant v = .ok ctx ∧ ctx.zone = tenant ∧ zillow.isMatch ctx = true :=
    ⟨_, rfl, rfl, by decide +kernel⟩
  have hshown : evaluateCommand (some rules) ⟨v, none, none⟩ tenant =
      .ok (rules.candidates.map (Rule.verdict ctx)) := by
    rw [evaluateCommand_all, hctx]
    rfl
  have hm : zillow ∈ rules.rules := List.mem_cons_of_mem _ List.mem_cons_self
  obtain ⟨hroute, hmodes⟩ := evaluate_agrees hzone hinput rules v
  obtain ⟨-, hrule, hinline⟩ := hmodes hids zillow hm rfl
  have hown := RuleSet.filter_verdicts_eq hids hm rfl ctx
  refine ⟨hzone, hinput, hids, ctx, hctx, hctxZone, hmatch,
    (hroute (some v) rfl).2 _ hshown, ?_, ?_⟩
  · rw [hshown] at hrule
    exact hrule.trans (congrArg Except.ok hown)
  · have hinline := hinline sources rfl none none
    rw [hshown] at hinline
    simp only [Except.map, hown, List.map_singleton] at hinline
    exact hinline

end LeadRouting
