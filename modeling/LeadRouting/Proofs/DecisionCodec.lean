import LeadRouting.Proofs.RuleCodec
import LeadRouting.Routing.Decision

/-!
# Requests and decisions are read back as they were written

A request comes in as a value and its decision is kept as one. This file says that nothing is lost
on the way, type by type: each record by the rules for its fields, and a decision by the kind that
its tag names, its other parts being buffered before they are read.

What has no number in it but whole ones is read back as it is. Of the rest it takes that the floats
are finite, as there is no value for the others (`Agent.Finite`, `LeadRequest.Finite`, ...).

* `Decoder.Undoes` -- the decoder gives back what was written, whether the value is kept as it was
  written or in normal form;
* `Agent.reads_toJson`, `LeadRequest.reads_toJson` -- what a request is made of;
* `Check.reads_toJson` -- a check, though a detail that is not there is not written;
* `Selection.reads_toJson`, `Decision.reads_toJson` -- what becomes of a lead;
* **`reads_requests_and_decisions`**: all of them together.
-/

namespace LeadRouting

open Decoder

/-! ## 1. What there is a value for -/

/-- The decoder gives back what was written, as it is written and with the entries of its records in
    order. -/
def Decoder.Undoes {α : Type} (f : Decoder α) (write : α → Json) (a : α) : Prop :=
  f (.ofJson (write a)) = .ok a ∧ f (.ofJson (write a).normal) = .ok a

theorem Decoder.Reads.undoes {α : Type} {f : Decoder α} {write : α → Json} {a : α}
    (h : f.Reads (write a) a) : f.Undoes write a := ⟨h.ofJson, h.ofJson_normal⟩

/-- The measured values of the agent are finite. -/
structure Agent.Finite (a : Agent) : Prop where
  geographyFit : Number.finite a.geographyFit = true
  priceBandFit : Number.finite a.priceBandFit = true
  keptRate : Number.finite a.keptRate = true

/-- The floats of the request are finite, those of its agents and of its policy included. -/
structure LeadRequest.Finite (r : LeadRequest) : Prop where
  geographyImportance : Number.finite r.geographyImportance = true
  priceBandImportance : Number.finite r.priceBandImportance = true
  agents : ∀ a ∈ r.agents, a.Finite
  policy : ∀ p ∈ r.policy, p.Finite

/-- The weight, the value and their product are finite. -/
structure Term.Finite (t : Term) : Prop where
  weight : Number.finite t.weight = true
  value : Number.finite t.value = true
  contribution : Number.finite t.contribution = true

/-- The score and all of its terms are finite. -/
structure ScoredAgent.Finite (s : ScoredAgent) : Prop where
  score : Number.finite s.score = true
  terms : ∀ t ∈ s.terms, t.Finite

/-- The scores of the selected agents are finite. -/
def Selection.Finite (s : Selection) : Prop := ∀ a ∈ s.agents, a.Finite

/-- The selection of the decision, if it has one, is finite. -/
def Decision.Finite (d : Decision) : Prop := ∀ s ∈ d.selection?, s.Finite

/-! ## 2. Requests -/

theorem Agent.reads_toJson {a : Agent} (h : a.Finite) : Agent.decode.Reads a.toJson a := by
  refine Fields.Reads.decoder ?_ (.refl _) (by decide) false
  refine .seq (.seq (.seq (.seq (.seq (.seq (.seq (.seq (.seq (.map _ ?_) ?_) ?_) ?_) ?_) ?_) ?_)
    ?_) ?_) ?_
  · exact .required rfl (reads_text a.userId)
  · exact .required rfl (reads_int64 a.capacityTarget)
  · exact .required rfl (reads_uint32 a.activePipeline)
  · exact .withDefault rfl (reads_float h.geographyFit)
  · exact .withDefault rfl (reads_float h.priceBandFit)
  · exact .withDefault rfl (reads_float h.keptRate)
  · exact .withDefault rfl (reads_bool a.consentReady)
  · exact .withDefault rfl (reads_bool a.numberReady)
  · exact .optional rfl (fun _ _ => nofun) fun s _ => reads_text s
  · exact .optional rfl (fun _ _ => nofun) fun n _ => reads_uint32 n

theorem LeadRequest.reads_toJson {r : LeadRequest} (h : r.Finite) :
    LeadRequest.decode.Reads r.toJson r := by
  refine Fields.Reads.decoder ?_ (.refl _) (by decide) true
  refine .seq (.seq (.seq (.seq (.seq (.seq (.seq (.map _ ?_) ?_) ?_) ?_) ?_) ?_) ?_) ?_
  · exact .required rfl (reads_text r.leadId)
  · exact .required rfl (reads_text r.tenantId)
  · exact .withDefault rfl (reads_float h.geographyImportance)
  · exact .withDefault rfl (reads_float h.priceBandImportance)
  · exact .withDefault rfl (reads_list fun a ha => a.reads_toJson (h.agents a ha))
  · exact .optional rfl (fun _ _ => nofun) fun p hp => p.reads_toJson (h.policy p hp)
  · exact .optional rfl (fun _ _ => nofun) fun s _ => reads_text s
  · exact .withDefault rfl (reads_bool r.quietHours)

/-! ## 3. Selections -/

theorem Factor.reads_name (f : Factor) :
    (Decoder.named Factor.all Factor.name).Reads (.text f.name) f := by
  refine reads_named (by decide) ?_
  cases f <;> decide

theorem Term.reads_toJson {t : Term} (h : t.Finite) : Term.decode.Reads t.toJson t := by
  refine Fields.Reads.decoder ?_ (.refl _) (by decide) false
  refine .seq (.seq (.seq (.map _ ?_) ?_) ?_) ?_
  · exact .required rfl t.factor.reads_name
  · exact .required rfl (reads_float h.weight)
  · exact .required rfl (reads_float h.value)
  · exact .required rfl (reads_float h.contribution)

theorem ScoredAgent.reads_toJson {s : ScoredAgent} (h : s.Finite) :
    ScoredAgent.decode.Reads s.toJson s := by
  refine Fields.Reads.decoder ?_ (.refl _) (by decide) false
  refine .seq (.seq (.seq (.seq (.map _ ?_) ?_) ?_) ?_) ?_
  · exact .required rfl (reads_text s.userId)
  · exact .optional rfl (fun _ _ => nofun) fun team _ => reads_text team
  · exact .required rfl (reads_float h.score)
  · exact .required rfl (reads_uint32 s.activePipeline)
  · exact .required rfl (reads_list fun t ht => t.reads_toJson (h.terms t ht))

theorem Selection.reads_toJson {s : Selection} (h : s.Finite) :
    Selection.decode.Reads s.toJson s := by
  refine Fields.Reads.decoder ?_ (.refl _) (by decide) false
  refine .seq (.seq (.seq (.seq (.seq (.map _ ?_) ?_) ?_) ?_) ?_) ?_
  · exact .required rfl (reads_text s.leadId)
  · exact .required rfl (reads_text s.tenantId)
  · exact .required rfl (reads_list fun a ha => a.reads_toJson (h a ha))
  · exact .required rfl (reads_bool s.usedFallback)
  · exact .optional rfl (fun _ _ => nofun) fun team _ => reads_text team
  · exact .required rfl (reads_bool s.quietHours)

/-! ## 4. Evaluations -/

theorem Category.reads_name (k : Category) :
    (Decoder.named Category.all Category.name).Reads (.text k.name) k :=
  reads_named (by decide) k.mem_all

/-- The entries that are written of a check: its detail only if there is one. -/
def Check.written (c : Check) : List (String × Json) :=
  [("key", .text c.category.name), ("passed", .bool c.passed)] ++
    Conditions.entry "detail" Json.text c.detail

/-- **A check is read back**, with its detail or without one. -/
theorem Check.reads_toJson (c : Check) : Check.decode.Reads c.toJson c := by
  have hnames : (c.written.map Prod.fst).Sublist (["key", "passed"] ++ ["detail"]) := by
    unfold written
    rw [List.map_append]
    exact .append (.refl _) (Conditions.map_fst_entry_sublist _ _ _)
  have hdetail : Json.lookup? "detail" c.written = c.detail.map Json.text := by
    unfold written
    rw [Json.lookup?_append, Conditions.lookup?_entry]
    rfl
  refine Fields.Reads.decoder ?_ hnames (by decide) false
  refine .seq (.seq (.map _ ?_) ?_) ?_
  · exact .required rfl c.category.reads_name
  · exact .required rfl (reads_bool c.passed)
  · exact .skipped hdetail (fun _ _ => nofun) fun s _ => reads_text s

theorem Evaluation.reads_toJson (e : Evaluation) : Evaluation.decode.Reads e.toJson e := by
  refine Fields.Reads.decoder ?_ (.refl _) (by decide) false
  refine .seq (.map _ ?_) ?_
  · exact .required rfl (reads_bool e.matched)
  · exact .required rfl (reads_list fun c _ => c.reads_toJson)

theorem RuleVerdict.reads_toJson (v : RuleVerdict) : RuleVerdict.decode.Reads v.toJson v := by
  refine Fields.Reads.decoder ?_ (.refl _) (by decide) false
  refine .seq (.map _ ?_) ?_
  · exact .required rfl (reads_text v.ruleId)
  · exact .required rfl v.evaluation.reads_toJson

/-! ## 5. Decisions -/

/-- **A decision is read back**, by the kind that its tag names. -/
theorem Decision.reads_toJson {d : Decision} (h : d.Finite) : Decision.decode.Reads d.toJson d := by
  cases d with
  | routed ruleId evaluation selection =>
      refine Fields.Reads.tagged ?_ rfl (.refl _) (by decide) false
      refine .seq (.seq (.map _ ?_) ?_) ?_
      · exact .required rfl (reads_text ruleId)
      · exact .required rfl evaluation.reads_toJson
      · exact .required rfl (selection.reads_toJson (h selection rfl))
  | pond ruleId pondId evaluation =>
      refine Fields.Reads.tagged ?_ rfl (.refl _) (by decide) false
      refine .seq (.seq (.map _ ?_) ?_) ?_
      · exact .required rfl (reads_text ruleId)
      · exact .required rfl (reads_text pondId)
      · exact .required rfl evaluation.reads_toJson
  | unmatched verdicts selection =>
      refine Fields.Reads.tagged ?_ rfl (.refl _) (by decide) false
      refine .seq (.map _ ?_) ?_
      · exact .required rfl (reads_list fun v _ => v.reads_toJson)
      · exact .required rfl (selection.reads_toJson (h selection rfl))

/-- **Requests and decisions are exactly what is read from their values**, and so is all that they
    are made of: agents, scored agents, selections, and evaluations of conditions and of rules. -/
theorem reads_requests_and_decisions :
    (∀ a : Agent, a.Finite → Agent.decode.Undoes Agent.toJson a) ∧
    (∀ r : LeadRequest, r.Finite → LeadRequest.decode.Undoes LeadRequest.toJson r) ∧
    (∀ s : ScoredAgent, s.Finite → ScoredAgent.decode.Undoes ScoredAgent.toJson s) ∧
    (∀ s : Selection, s.Finite → Selection.decode.Undoes Selection.toJson s) ∧
    (∀ e : Evaluation, Evaluation.decode.Undoes Evaluation.toJson e) ∧
    (∀ v : RuleVerdict, RuleVerdict.decode.Undoes RuleVerdict.toJson v) ∧
    ∀ d : Decision, d.Finite → Decision.decode.Undoes Decision.toJson d :=
  ⟨fun _ h => (Agent.reads_toJson h).undoes, fun _ h => (LeadRequest.reads_toJson h).undoes,
    fun _ h => (ScoredAgent.reads_toJson h).undoes, fun _ h => (Selection.reads_toJson h).undoes,
    fun e => e.reads_toJson.undoes, fun v => v.reads_toJson.undoes,
    fun _ h => (Decision.reads_toJson h).undoes⟩

/-- A request for an agent without a team and with a negative zero in it, and the decision for which
    one check was passed and another was not. -/
theorem reads_requests_and_decisions_evenings :
    let ann : Agent := ⟨"ann", -3, 4294967295, -0.0, 0.1, 1.0, true, false, none, some 0⟩
    let request : LeadRequest :=
      ⟨"lead", "tenant", 0.25, 0.0, [ann], some Policy.standard, none, true⟩
    let term : Term := ⟨.priceBand, 0.3, 0.1, 0.03⟩
    let scored : ScoredAgent := ⟨"ann", none, 0.03, 4294967295, [term]⟩
    let selection : Selection := ⟨"lead", "tenant", [scored], false, some "west", true⟩
    let evaluation : Evaluation :=
      ⟨false, [⟨.geography, true, none⟩, ⟨.windows, false, some "too late"⟩]⟩
    let decision : Decision := .unmatched [⟨"evenings", evaluation⟩] selection
    request.Finite ∧ decision.Finite ∧ LeadRequest.decode.Undoes LeadRequest.toJson request ∧
      Decision.decode.Undoes Decision.toJson decision := by
  intro ann request term scored selection evaluation decision
  have hann : ann.Finite := by
    constructor <;> decide +kernel
  have hterm : term.Finite := by
    constructor <;> decide +kernel
  have hrequest : request.Finite := by
    refine ⟨by decide +kernel, by decide +kernel, ?_, ?_⟩
    · intro a ha
      exact List.mem_singleton.mp ha ▸ hann
    · rintro p ⟨⟩
      constructor <;> decide +kernel
  have hscored : scored.Finite := by
    refine ⟨by decide +kernel, fun t ht => ?_⟩
    exact List.mem_singleton.mp ht ▸ hterm
  have hdecision : decision.Finite := by
    rintro s ⟨⟩ a ha
    exact List.mem_singleton.mp ha ▸ hscored
  obtain ⟨-, hrequests, -, -, -, -, hdecisions⟩ := reads_requests_and_decisions
  exact ⟨hrequest, hdecision, hrequests request hrequest, hdecisions decision hdecision⟩

end LeadRouting
