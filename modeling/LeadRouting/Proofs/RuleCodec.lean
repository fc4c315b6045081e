import LeadRouting.Proofs.ListedZones
import LeadRouting.Proofs.ReadingBack
import LeadRouting.Rule.Set

/-!
# Rule sets are read back as they were written

Rules are kept as values: a set is written, put away with the entries of its records in order, and
read again. This file says that nothing is lost on the way, type by type from the texts of a window
up to the set, each type by the rules for its fields.

A set is `Storable` if there is a value for all of it: its floats are finite, its windows begin and
end at a full minute, and the values of its tests on custom fields are in normal form. Of the zones
it is assumed that they are found under their names (`Zones.Named`). Then

* `TimeOfDay.read?_write` -- a full minute is read back from its four digits;
* `Conditions.reads_toJson` -- conditions are, though a category that is left out is not written; a
  category, a filter or a list that is there and EMPTY is written and stays;
* `Target.reads_toJson` -- a target is, by the kind that stands under its tag;
* **`RuleSet.decode_toJson`**: the set itself is what its value reads as, and what the normal form
  of its value reads as.
-/

namespace LeadRouting

open Decoder

/-! ## 1. Texts of their own -/

namespace TimeOfDay

/-- The time is the beginning of a minute. -/
def FullMinute (t : TimeOfDay) : Prop := t.seconds % 60 = 0 ∧ t.nanos = 0

theorem toList_padded : ∀ n < 60,
    (padded 2 n).toList = [Nat.digitChar (n / 10), Nat.digitChar (n % 10)] ∧
      (Nat.digitChar (n / 10)).isDigit = true ∧ (Nat.digitChar (n % 10)).isDigit = true ∧
      Number.ofDigits [Nat.digitChar (n / 10), Nat.digitChar (n % 10)] = n := by
  decide +kernel

theorem isBlank_of_isDigit {c : Char} (h : c.isDigit = true) : Text.isBlank c = false := by
  obtain ⟨hlo, hhi⟩ := Bool.and_eq_true_iff.mp h
  have hlo : 48 ≤ c.toNat := UInt32.le_iff_toNat_le.mp (of_decide_eq_true hlo)
  have hhi : c.toNat ≤ 57 := UInt32.le_iff_toNat_le.mp (of_decide_eq_true hhi)
  simp only [Text.isBlank, Bool.or_eq_false_iff, Bool.and_eq_false_iff, decide_eq_false_iff_not]
  omega

/-- Two digits are read back, whatever stands behind them. -/
theorem group?_padded {n : Nat} (h : n < 60) (rest : List Char) :
    group? ((padded 2 n).toList ++ rest) = some (n, rest) := by
  obtain ⟨hchars, hfirst, hsecond, hvalue⟩ := toList_padded n h
  have htrim : Text.trimStart ((padded 2 n).toList ++ rest) = (padded 2 n).toList ++ rest := by
    rw [hchars]
    exact List.dropWhile_cons_of_neg (by rw [isBlank_of_isDigit hfirst]; exact Bool.false_ne_true)
  unfold group? digitGroup?
  rw [htrim, hchars]
  simp only [List.cons_append, List.nil_append, List.take_succ_cons, List.take_zero,
    List.takeWhile_cons, hfirst, hsecond, if_true, List.takeWhile_nil, hvalue, List.isEmpty_cons,
    List.length_cons, List.length_nil, List.drop_succ_cons, List.drop_zero]
  rfl

theorem trimChars_of_ends {first last : Char} (middle : List Char)
    (hfirst : first.isDigit = true) (hlast : last.isDigit = true) :
    Text.trimChars (first :: (middle ++ [last])) = first :: (middle ++ [last]) := by
  have hstart : Text.trimStart (first :: (middle ++ [last])) = first :: (middle ++ [last]) :=
    List.dropWhile_cons_of_neg (by rw [isBlank_of_isDigit hfirst]; exact Bool.false_ne_true)
  have hend : (last :: (first :: middle).reverse).dropWhile Text.isBlank =
      last :: (first :: middle).reverse :=
    List.dropWhile_cons_of_neg (by rw [isBlank_of_isDigit hlast]; exact Bool.false_ne_true)
  unfold Text.trimChars Text.trimEnd
  rw [hstart, ← List.cons_append, List.reverse_append, List.reverse_singleton,
    List.singleton_append, hend, List.reverse_cons, List.reverse_reverse]

theorem toList_write (t : TimeOfDay) :
    t.write.toList = (padded 2 (t.seconds / 3600)).toList ++
      ':' :: ((padded 2 (t.seconds / 60 % 60)).toList ++ []) := by
  unfold write
  rw [String.toList_append, String.toList_append, List.append_nil, List.append_assoc]
  rfl

/-- **A full minute is read back.** -/
theorem read?_write {t : TimeOfDay} (h : t.FullMinute) : read? t.write = some t := by
  have hday : t.seconds < 86400 := t.seconds_lt
  have hhour : t.seconds / 3600 < 24 := by omega
  have hminute : t.seconds / 60 % 60 < 60 := Nat.mod_lt _ (by decide)
  obtain ⟨hchars, hfirst, _, _⟩ := toList_padded (t.seconds / 3600) (by omega)
  obtain ⟨hchars', _, hlast, _⟩ := toList_padded (t.seconds / 60 % 60) hminute
  -- the text begins and ends with a digit, so there is nothing to trim
  have htrim : Text.trimChars t.write.toList = t.write.toList := by
    rw [toList_write, hchars, hchars']
    exact trimChars_of_ends [_, ':', _] hfirst hlast
  have hclock : ofClock? (t.seconds / 3600) (t.seconds / 60 % 60) 0 = some t := by
    obtain ⟨seconds, nanos, hlt⟩ := t
    obtain ⟨hseconds, rfl⟩ : seconds % 60 = 0 ∧ nanos = 0 := h
    unfold ofClock?
    rw [dif_pos ⟨hhour, hminute, by decide⟩, if_neg (by decide)]
    simp only [Option.some.injEq, TimeOfDay.mk.injEq, and_true]
    omega
  unfold read? ofChars?
  rw [htrim, toList_write, group?_padded (by omega)]
  simp only [Option.bind_eq_bind, Option.bind_some, colon?, group?_padded hminute,
    List.isEmpty_nil, if_true, hclock]

theorem reads_write {t : TimeOfDay} (h : t.FullMinute) :
    TimeOfDay.decode.Reads (.text t.write) t := reads_spelledAs (read?_write h)

end TimeOfDay

theorem Weekday.ofName?_name (d : Weekday) : Weekday.ofName? d.name = some d := by
  cases d <;> rfl

theorem Weekday.reads_name (d : Weekday) : Weekday.decode.Reads (.text d.name) d :=
  reads_spelledAs d.ofName?_name

theorem Zone.reads_name [Zones] [Zones.Named] (z : Zone) : Zone.decode.Reads (.text z.name) z :=
  reads_spelledAs z.ofName?_name

theorem Operator.ofName?_name (op : Operator) : Operator.ofName? op.name = some op := by
  cases op <;> rfl

theorem Operator.reads_name (op : Operator) : Operator.decode.Reads (.text op.name) op :=
  reads_spelledAs op.ofName?_name

/-! ## 2. What there is a value for -/

/-- The bounds are finite. -/
def PriceBand.Finite (b : PriceBand) : Prop :=
  (∀ x ∈ b.min, Number.finite x = true) ∧ ∀ x ∈ b.max, Number.finite x = true

/-- The floor and the weights are finite. -/
structure Policy.Finite (p : Policy) : Prop where
  floor : Number.finite p.floor = true
  performance : Number.finite p.performance = true
  capacity : Number.finite p.capacity = true
  geography : Number.finite p.geography = true
  priceBand : Number.finite p.priceBand = true

/-- The window begins and ends at a full minute. -/
def Window.FullMinutes [Zones] (w : Window) : Prop := w.start.FullMinute ∧ w.stop.FullMinute

/-- There is a value for all of the conditions. The values of the tests on custom fields are those
    that a document can be read as (`Document.toJson?_canonical`). -/
structure Conditions.Storable [Zones] (c : Conditions) : Prop where
  priceBand : ∀ b ∈ c.priceBand, b.Finite
  windows : ∀ ws ∈ c.windows, ∀ w ∈ ws, w.FullMinutes
  customFields : ∀ ts ∈ c.customFields, ∀ t ∈ ts, t.value.Canonical

/-- There is a value for all of the rule. -/
structure Rule.Storable [Zones] (r : Rule) : Prop where
  conditions : ∀ c ∈ r.conditions, c.Storable
  policy : ∀ p ∈ r.policy, p.Finite

/-- There is a value for all of the rules. -/
def RuleSet.Storable [Zones] (s : RuleSet) : Prop := ∀ r ∈ s.rules, r.Storable

/-! ## 3. Categories of conditions -/

theorem reads_texts (ss : List String) :
    (Decoder.list Decoder.text).Reads (.ofList Json.text ss) ss :=
  reads_list fun s _ => reads_text s

theorem Json.ofFloat_ne_null {x : Float} (h : Number.finite x = true) :
    Json.ofFloat x ≠ .null := by
  unfold Json.ofFloat
  rw [if_pos h]
  exact nofun

theorem Places.reads_toJson (p : Places) : Places.decode.Reads p.toJson p := by
  refine Fields.Reads.decoder ?_ (.refl _) (by decide) true
  refine .seq (.seq (.map _ ?_) ?_) ?_
  · exact .withDefault rfl (reads_texts p.states)
  · exact .withDefault rfl (reads_texts p.cities)
  · exact .withDefault rfl (reads_texts p.postalCodes)

theorem Geography.reads_toJson (g : Geography) : Geography.decode.Reads g.toJson g := by
  refine Fields.Reads.decoder ?_ (.refl _) (by decide) true
  refine .seq (.map _ ?_) ?_
  · exact .optional rfl (fun _ _ => nofun) fun p _ => p.reads_toJson
  · exact .optional rfl (fun _ _ => nofun) fun p _ => p.reads_toJson

theorem PriceBand.reads_toJson {b : PriceBand} (h : b.Finite) :
    PriceBand.decode.Reads b.toJson b := by
  refine Fields.Reads.decoder ?_ (.refl _) (by decide) true
  refine .seq (.seq (.map _ ?_) ?_) ?_
  · exact .optional rfl (fun x hx => Json.ofFloat_ne_null (h.1 x hx)) fun x hx =>
      reads_float (h.1 x hx)
  · exact .optional rfl (fun x hx => Json.ofFloat_ne_null (h.2 x hx)) fun x hx =>
      reads_float (h.2 x hx)
  · exact .optional rfl (fun _ _ => nofun) fun s _ => reads_text s

theorem SourceFilter.reads_toJson (f : SourceFilter) : SourceFilter.decode.Reads f.toJson f := by
  refine Fields.Reads.decoder ?_ (.refl _) (by decide) true
  refine .seq (.map _ ?_) ?_
  · exact .withDefault rfl (reads_texts f.included)
  · exact .withDefault rfl (reads_texts f.excluded)

theorem ConsentDemand.reads_name (d : ConsentDemand) :
    (Decoder.named ConsentDemand.all ConsentDemand.name).Reads (.text d.name) d := by
  refine reads_named (by decide) ?_
  cases d <;> decide

theorem ConsentCondition.reads_toJson (c : ConsentCondition) :
    ConsentCondition.decode.Reads c.toJson c := by
  refine Fields.Reads.decoder ?_ (.refl _) (by decide) true
  refine .seq (.map _ ?_) ?_
  · exact .optional rfl (fun _ _ => nofun) fun d _ => d.reads_name
  · exact .optional rfl (fun _ _ => nofun) fun d _ => d.reads_name

theorem RepresentationDemand.reads_name (d : RepresentationDemand) :
    (Decoder.named RepresentationDemand.all RepresentationDemand.name).Reads (.text d.name) d := by
  refine reads_named (by decide) ?_
  cases d <;> decide

theorem Window.reads_toJson [Zones] [Zones.Named] {w : Window} (h : w.FullMinutes) :
    Window.decode.Reads w.toJson w := by
  have hnames : ["timezone", "start", "end", "days"].Nodup := by decide
  refine Fields.Reads.decoder ?_ (.refl _) (by exact hnames) true
  refine .seq (.seq (.seq (.map _ ?_) ?_) ?_) ?_
  · exact .optional rfl (fun _ _ => nofun) fun z _ => z.reads_name
  · exact .required rfl (TimeOfDay.reads_write h.1)
  · exact .required rfl (TimeOfDay.reads_write h.2)
  · exact .optional rfl (fun _ _ => nofun) fun days _ => reads_list fun d _ => d.reads_name

theorem MatchMode.reads_name (m : MatchMode) :
    (Decoder.named [.any, .all] MatchMode.name).Reads (.text m.name) m := by
  refine reads_named (by decide) ?_
  cases m <;> decide

theorem MemberFilter.reads_toJson (f : MemberFilter) : MemberFilter.decode.Reads f.toJson f := by
  refine Fields.Reads.decoder ?_ (.refl _) (by decide) true
  refine .seq (.seq (.map _ ?_) ?_) ?_
  · exact .withDefault rfl (reads_texts f.included)
  · exact .withDefault rfl (reads_texts f.excluded)
  · exact .withDefault rfl f.mode.reads_name

theorem Demographics.reads_toJson (d : Demographics) : Demographics.decode.Reads d.toJson d := by
  refine Fields.Reads.decoder ?_ (.refl _) (by decide) true
  refine .seq (.seq (.seq (.seq (.map _ ?_) ?_) ?_) ?_) ?_
  · exact .optional rfl (fun _ _ => nofun) fun n _ => reads_uint32 n
  · exact .optional rfl (fun _ _ => nofun) fun n _ => reads_uint32 n
  · exact .optional rfl (fun _ _ => nofun) fun f _ => f.reads_toJson
  · exact .optional rfl (fun _ _ => nofun) fun f _ => f.reads_toJson
  · exact .optional rfl (fun _ _ => nofun) fun f _ => f.reads_toJson

theorem FieldTest.reads_toJson {t : FieldTest} (h : t.value.Canonical) :
    FieldTest.decode.Reads t.toJson t := by
  refine Fields.Reads.decoder ?_ (.refl _) (by decide) true
  refine .seq (.seq (.map _ ?_) ?_) ?_
  · exact .required rfl (reads_text t.key)
  · exact .required rfl t.operator.reads_name
  · exact .withDefault rfl (reads_value h)

/-! ## 4. Conditions -/

namespace Conditions

theorem lookup?_entry {α : Type} (name key : String) (write : α → Json) (a : Option α) :
    Json.lookup? name (entry key write a) = if key = name then a.map write else .none := by
  cases a with
  | none => exact (ite_self _).symm
  | some x => exact Json.lookup?_cons name (key, write x) []

theorem map_fst_entry_sublist {α : Type} (key : String) (write : α → Json) (a : Option α) :
    ((entry key write a).map Prod.fst).Sublist [key] := by
  cases a with
  | none => exact List.nil_sublist _
  | some x => exact .refl _

variable [Zones]

/-- The entries that are written: those of the categories that are there. -/
def written (c : Conditions) : List (String × Json) :=
  entry "geography" Geography.toJson c.geography ++
  entry "priceBand" PriceBand.toJson c.priceBand ++
  entry "sources" SourceFilter.toJson c.sources ++
  entry "consent" ConsentCondition.toJson c.consent ++
  entry "buyerRep" (fun d => .text d.name) c.representation ++
  entry "timeWindows" (.ofList Window.toJson) c.windows ++
  entry "demographics" Demographics.toJson c.demographics ++
  entry "customFields" (.ofList FieldTest.toJson) c.customFields

/-- Every category is found under its name, if it is there. -/
theorem lookup?_written (c : Conditions) :
    Json.lookup? "geography" c.written = c.geography.map Geography.toJson ∧
    Json.lookup? "priceBand" c.written = c.priceBand.map PriceBand.toJson ∧
    Json.lookup? "sources" c.written = c.sources.map SourceFilter.toJson ∧
    Json.lookup? "consent" c.written = c.consent.map ConsentCondition.toJson ∧
    Json.lookup? "buyerRep" c.written = c.representation.map (fun d => .text d.name) ∧
    Json.lookup? "timeWindows" c.written = c.windows.map (.ofList Window.toJson) ∧
    Json.lookup? "demographics" c.written = c.demographics.map Demographics.toJson ∧
    Json.lookup? "customFields" c.written = c.customFields.map (.ofList FieldTest.toJson) := by
  simp [written, Json.lookup?_append, lookup?_entry]

theorem map_fst_written_sublist (c : Conditions) :
    (c.written.map Prod.fst).Sublist
      (["geography"] ++ ["priceBand"] ++ ["sources"] ++ ["consent"] ++ ["buyerRep"] ++
        ["timeWindows"] ++ ["demographics"] ++ ["customFields"]) := by
  unfold written
  simp only [List.map_append]
  repeat' refine List.Sublist.append ?_ ?_
  all_goals exact map_fst_entry_sublist _ _ _

/-- **Conditions are read back**, the categories that are left out and those that are empty. -/
theorem reads_toJson [Zones.Named] {c : Conditions} (h : c.Storable) :
    Conditions.decode.Reads c.toJson c := by
  obtain ⟨hgeography, hprice, hsources, hconsent, hrepresentation, hwindows, hdemographics,
    hcustom⟩ := lookup?_written c
  have hnames : ["geography", "priceBand", "sources", "consent", "buyerRep", "timeWindows",
      "demographics", "customFields"].Nodup := by decide
  refine Fields.Reads.decoder ?_ (map_fst_written_sublist c) (by exact hnames) true
  refine .seq (.seq (.seq (.seq (.seq (.seq (.seq (.map _ ?_) ?_) ?_) ?_) ?_) ?_) ?_) ?_
  · exact .skipped hgeography (fun _ _ => nofun) fun g _ => g.reads_toJson
  · exact .skipped hprice (fun _ _ => nofun) fun b hb => b.reads_toJson (h.priceBand b hb)
  · exact .skipped hsources (fun _ _ => nofun) fun f _ => f.reads_toJson
  · exact .skipped hconsent (fun _ _ => nofun) fun d _ => d.reads_toJson
  · exact .skipped hrepresentation (fun _ _ => nofun) fun d _ => d.reads_name
  · refine .skipped hwindows (fun _ _ => nofun) fun ws hws => reads_list fun w hw => ?_
    exact w.reads_toJson (h.windows ws hws w hw)
  · exact .skipped hdemographics (fun _ _ => nofun) fun d _ => d.reads_toJson
  · refine .skipped hcustom (fun _ _ => nofun) fun ts hts => reads_list fun t ht => ?_
    exact t.reads_toJson (h.customFields ts hts t ht)

end Conditions

/-! ## 5. Rules -/

theorem Policy.reads_toJson {p : Policy} (h : p.Finite) : Policy.decode.Reads p.toJson p := by
  refine Fields.Reads.decoder ?_ ?_ (by decide) true
  · refine .seq (.seq (.seq (.seq (.map _ ?_) ?_) ?_) ?_) ?_
    · exact .aliased rfl rfl (reads_float h.floor)
    · exact .aliased rfl rfl (reads_float h.performance)
    · exact .aliased rfl rfl (reads_float h.capacity)
    · exact .aliased rfl rfl (reads_float h.geography)
    · exact .aliased rfl rfl (reads_float h.priceBand)
  · have hnames : ["minimumScore", "performanceWeight", "capacityWeight", "geographyWeight",
        "priceBandWeight"].Sublist Policy.fields.names := by decide
    exact hnames

theorem Strategy.reads_name (s : Strategy) :
    (Decoder.named [.score, .roundRobin] Strategy.name).Reads (.text s.name) s := by
  refine reads_named (by decide) ?_
  cases s <;> decide

/-- **A target is read back**, by the kind that its tag names. -/
theorem Target.reads_toJson (t : Target) : Target.decode.Reads t.toJson t := by
  cases t with
  | agents ids =>
      refine Fields.Reads.tagged ?_ rfl (.refl _) (by decide) true
      exact .map _ (.required rfl (reads_texts ids))
  | team id strategy =>
      refine Fields.Reads.tagged ?_ rfl (.refl _) (by decide) true
      refine .seq (.map _ ?_) ?_
      · exact .required rfl (reads_text id)
      · exact .withDefault rfl strategy.reads_name
  | pond id =>
      refine Fields.Reads.tagged ?_ rfl (.refl _) (by decide) true
      exact .map _ (.required rfl (reads_text id))

theorem Rule.reads_toJson [Zones] [Zones.Named] {r : Rule} (h : r.Storable) :
    Rule.decode.Reads r.toJson r := by
  have hnames : ["id", "name", "priority", "enabled", "conditions", "targets", "fallbackTeamId",
      "config"].Nodup := by decide
  refine Fields.Reads.decoder ?_ (.refl _) (by exact hnames) true
  refine .seq (.seq (.seq (.seq (.seq (.seq (.seq (.map _ ?_) ?_) ?_) ?_) ?_) ?_) ?_) ?_
  · exact .required rfl (reads_text r.id)
  · exact .optional rfl (fun _ _ => nofun) fun s _ => reads_text s
  · exact .withDefault rfl (reads_int32 r.priority)
  · exact .withDefault rfl (reads_bool r.enabled)
  · exact .optional rfl (fun _ _ => nofun) fun c hc => c.reads_toJson (h.conditions c hc)
  · exact .required rfl (reads_list fun t _ => t.reads_toJson)
  · exact .optional rfl (fun _ _ => nofun) fun s _ => reads_text s
  · exact .optional rfl (fun _ _ => nofun) fun p hp => p.reads_toJson (h.policy p hp)

/-! ## 6. Rule sets -/

namespace RuleSet

section Sets

variable [Zones] [Zones.Named] {s : RuleSet}

theorem reads_toJson (h : s.Storable) : RuleSet.decode.Reads s.toJson s := by
  refine Fields.Reads.decoder ?_ (.refl _) (by exact List.nodup_singleton "rules") true
  exact .map _ (.withDefault rfl (reads_list fun r hr => r.reads_toJson (h r hr)))

/-- **A rule set is exactly what is read from its value**, as it is written or with the entries of
    its records in order. -/
theorem decode_toJson (h : s.Storable) :
    decode (.ofJson s.toJson) = .ok s ∧ decode (.ofJson s.toJson.normal) = .ok s :=
  ⟨(reads_toJson h).ofJson, (reads_toJson h).ofJson_normal⟩

end Sets

/-- A rule for evenings in Denver, with a filter that is there and empty, a window on no day and a
    nested value, and a rule that says nothing. -/
theorem decode_toJson_evenings :
    let evenings : Rule :=
      { id := "evenings"
        name := none
        priority := -5
        enabled := true
        conditions := some { Conditions.none with
          geography := some ⟨some ⟨["CO"], [], []⟩, none⟩
          priceBand := some ⟨some 250.5, none, some "USD"⟩
          windows := some [⟨some .denver, ⟨64800, 0, by decide⟩, ⟨79200, 0, by decide⟩, some []⟩]
          demographics := some ⟨some 18, none, some ⟨[], [], .all⟩, none, none⟩
          customFields := some [⟨"plan", .among,
            .list [.text "gold", .record [("kind", .null), ("share", .float 0.5)]]⟩] }
        targets := [.team "west" .roundRobin, .agents ["ann"], .pond "shared"]
        fallbackTeamId := some "east"
        policy := some Policy.standard }
    let silent : Rule := ⟨"silent", none, 100, false, some Conditions.none, [], none, none⟩
    let s : RuleSet := ⟨[evenings, silent]⟩
    s.Storable ∧ decode (.ofJson s.toJson) = .ok s ∧ decode (.ofJson s.toJson.normal) = .ok s := by
  intro evenings silent s
  have hpolicy : Policy.standard.Finite := by
    constructor <;> decide +kernel
  have hevenings : evenings.Storable := by
    refine ⟨?_, ?_⟩
    · rintro c ⟨⟩
      refine ⟨?_, ?_, ?_⟩
      · rintro b ⟨⟩
        exact ⟨fun x hx => Option.some.inj hx ▸ by decide +kernel, nofun⟩
      · rintro ws ⟨⟩ w hw
        rw [List.mem_singleton.mp hw]
        exact ⟨⟨rfl, rfl⟩, rfl, rfl⟩
      · rintro ts ⟨⟩ t ht
        rw [List.mem_singleton.mp ht]
        have hvalue : (Document.ofJson (.list
            [.text "gold", .record [("kind", .null), ("share", .float 0.5)]])).toJson? =
              some (.list [.text "gold", .record [("kind", .null), ("share", .float 0.5)]]) := rfl
        exact Document.toJson?_canonical hvalue
    · rintro p ⟨⟩
      exact hpolicy
  have hsilent : silent.Storable := by
    refine ⟨?_, nofun⟩
    rintro c ⟨⟩
    exact ⟨nofun, nofun, nofun⟩
  have hs : s.Storable := by
    intro r hr
    rcases List.mem_cons.mp hr with rfl | hr
    · exact hevenings
    · exact List.mem_singleton.mp hr ▸ hsilent
  exact ⟨hs, decode_toJson hs⟩

end RuleSet

end LeadRouting
