import LeadRouting.Command.Request
import LeadRouting.Proofs.Following
import LeadRouting.Proofs.RuleCodec

/-!
# The zone of a context

A context that names no zone is meant to be taken in that of the tenant. For this an entry is added to
the record of the context before it is read; but a context may be a list of its fields as well, and
a list that ends before the zone is read with the zone UTC.

* `Fields.reading` -- what one field of a record comes to, whatever stands beside it;
  `Context.toOption_decode_record`: a context is put together of four such readings;
* `Context.toOption_ofJson_record` -- the entry for the zone changes NOTHING ELSE: a record that gives
  no zone is read as it is, and then taken in the zone of the tenant;
* `Json.zone?` -- the zone that a value gives, under its name or in its place, and `Context.Placed` --
  the context is in that zone, or else in the tenant's; `Json.Curt` -- a list that ends before it;
* **`Context.placed_iff`** -- a context is placed rightly unless it is such a list and the zone of the
  tenant is another than UTC, and in all else it is what the value says.
-/

namespace LeadRouting

open Document

variable {α β : Type}

/-! ## 1. What fields come to -/

/-- What is found under a name is the first of the entries with that name. -/
theorem Json.lookup?_eq_head? (name : String) (fields : List (String × α)) :
    lookup? name fields = (fields.filter fun e => e.1 = name).head?.map Prod.snd := by
  rw [List.head?_filter]
  rfl

theorem Json.filter_eq_nil_of_lookup? {name : String} {fields : List (String × α)}
    (h : lookup? name fields = none) : fields.filter (fun e => e.1 = name) = [] := by
  rw [lookup?_eq_head?, Option.map_eq_none_iff, List.head?_eq_none_iff] at h
  exact h

namespace Fields

/-- What a field with one name and a default comes to in a record: nothing if it is given twice or
    does not fit. -/
def reading (name : String) (f : Decoder α) (absent : Option α) (fields : List (String × Json)) :
    Option α :=
  match fields.filter fun e => e.1 = name with
  | [] => absent
  | [e] => (f (.ofJson e.2)).toOption
  | _ :: _ :: _ => .none

theorem toOption_spelled (name : String) (f : Decoder α) (absent : Option α)
    (fields : List (String × Json)) :
    ((spelled name [] f absent).ofEntries (namedIn .positional fields)).toOption =
      reading name f absent fields := by
  have hfound := map_snd_occurrences_namedIn [name] .positional fields
  simp only [List.mem_singleton] at hfound
  unfold spelled reading
  simp only
  cases hgiven : fields.filter fun e => e.1 = name with
  | nil =>
      rw [hgiven, List.map_nil, List.map_eq_nil_iff] at hfound
      rw [hfound]
      cases absent <;> rfl
  | cons e rest =>
      rw [hgiven, List.map_cons] at hfound
      obtain ⟨⟨i, d⟩, more, hoccurs, rfl, hmore⟩ := List.map_eq_cons_iff.mp hfound
      rw [hoccurs]
      cases rest with
      | nil =>
          rw [List.map_nil, List.map_eq_nil_iff] at hmore
          simp only [hmore, ofJsonIn_positional]
          cases f (.ofJson e.2) <;> rfl
      | cons e' rest =>
          obtain ⟨⟨j, d'⟩, more', rfl, -, -⟩ := List.map_eq_cons_iff.mp hmore
          simp only
          cases f (ofJsonIn .positional e.2) <;> rfl

theorem toOption_map (h : α → β) (f : Fields α) (named : List (String × Document)) :
    ((h <$> f).ofEntries named).toOption = (f.ofEntries named).toOption.map h := by
  change ((f.ofEntries named).map h).toOption = _
  cases f.ofEntries named <;> rfl

theorem toOption_seq (f : Fields (α → β)) (g : Fields α) (named : List (String × Document)) :
    ((f <*> g).ofEntries named).toOption =
      (f.ofEntries named).toOption.bind fun h => (g.ofEntries named).toOption.map h := by
  change ((Located.both (f.ofEntries named) (g.ofEntries named)).map
    fun both => both.1 both.2).toOption = _
  cases f.ofEntries named with
  | error e => cases g.ofEntries named <;> rfl
  | ok h => cases g.ofEntries named <;> rfl

theorem toOption_decoder (f : Fields α) (fields : List (String × Json)) :
    (f.decoder false (.ofJson (.record fields))).toOption =
      (f.ofEntries (namedIn .positional fields)).toOption := by
  have hnamed := map_nameOf_ofFieldsIn f .positional fields
  rw [ofFieldsIn_positional] at hnamed
  change (Located.forget ((Located.both (.ok ()) (f.ofEntries
    ((ofJsonFields fields).map fun e => (f.nameOf e.1, e.2)))).map Prod.snd)).toOption = _
  rw [hnamed]
  cases f.ofEntries (namedIn .positional fields) <;> rfl

/-- An entry under another name changes nothing. -/
theorem reading_insertField_of_ne {name key : String} (hne : key ≠ name) (f : Decoder α)
    (absent : Option α) (v : Json) (fields : List (String × Json)) :
    reading name f absent (Json.insertField key v fields) = reading name f absent fields := by
  have hsame : (Json.insertField key v fields).filter (fun e => e.1 = name) =
      fields.filter fun e => e.1 = name := by
    induction fields with
    | nil => simp [Json.insertField, hne]
    | cons e rest ih =>
        unfold Json.insertField
        split
        · rename_i hkey
          rw [List.filter_cons_of_neg (by simpa using hne),
            List.filter_cons_of_neg (by simpa [← hkey] using hne)]
        · split
          · rw [List.filter_cons_of_neg (by simpa using hne)]
          · rw [List.filter_cons, List.filter_cons, ih]
  unfold reading
  rw [hsame]

/-- A name that is not given comes to what is added under it. -/
theorem reading_insertField_self {name : String} {fields : List (String × Json)}
    (h : Json.lookup? name fields = .none) (f : Decoder α) (absent : Option α) (v : Json) :
    reading name f absent (Json.insertField name v fields) = (f (.ofJson v)).toOption := by
  have hperm := (Json.insertField_perm v (Json.not_mem_of_lookup? h)).filter fun e => e.1 = name
  rw [List.filter_cons, if_pos (decide_eq_true rfl), Json.filter_eq_nil_of_lookup? h,
    List.perm_singleton] at hperm
  unfold reading
  rw [hperm]

theorem reading_of_lookup?_eq_none {name : String} {fields : List (String × Json)}
    (h : Json.lookup? name fields = .none) (f : Decoder α) (absent : Option α) :
    reading name f absent fields = absent := by
  unfold reading
  rw [Json.filter_eq_nil_of_lookup? h]

/-- What a field comes to is what stands under its name. -/
theorem decode_of_reading {name : String} {fields : List (String × Json)} {v : Json} {a : α}
    (h : Json.lookup? name fields = some v) {f : Decoder α} {absent : Option α}
    (hread : reading name f absent fields = some a) : f (.ofJson v) = .ok a := by
  rw [Json.lookup?_eq_head?] at h
  unfold reading at hread
  split at hread
  · rename_i hnone
    rw [hnone] at h
    cases h
  · rename_i e hone
    rw [hone] at h
    obtain rfl : e.2 = v := Option.some.inj h
    cases hv : f (.ofJson e.2) with
    | error err => rw [hv] at hread; cases hread
    | ok b => rw [hv] at hread; exact congrArg Except.ok (Option.some.inj hread)
  · cases hread

theorem ofItems_of_fromItems {f : Fields α} {m : Manner} {items : List Document} {a : α}
    (h : f.fromItems m items = .ok a) : f.ofItems 0 items = .ok a := by
  unfold fromItems at h
  split at h
  · cases h
  · cases hitems : f.ofItems 0 items with
    | error e => rw [hitems] at h; cases h
    | ok b =>
        rw [hitems] at h
        simp only [Located.forget, Except.mapError, bind, Except.bind] at h
        split at h
        · cases h
        · exact congrArg Except.ok (Except.ok.inj h)

theorem ofItems_map {f : Fields α} {g : α → β} {i : Nat} {items : List Document} {b : β}
    (h : (g <$> f).ofItems i items = .ok b) : ∃ a, f.ofItems i items = .ok a ∧ b = g a := by
  change (f.ofItems i items).map g = .ok b at h
  cases ha : f.ofItems i items with
  | error e => rw [ha] at h; cases h
  | ok a => rw [ha] at h; exact ⟨a, rfl, (Except.ok.inj h).symm⟩

theorem ofItems_seq {f : Fields (α → β)} {g : Fields α} {i : Nat} {items : List Document} {b : β}
    (h : (f <*> g).ofItems i items = .ok b) : ∃ k a, f.ofItems i items = .ok k ∧
      g.ofItems (i + f.width) (items.drop f.width) = .ok a ∧ b = k a := by
  obtain ⟨⟨k, a⟩, hka, rfl⟩ := ofItems_map (f := f.both g) (g := fun ka => ka.1 ka.2) h
  obtain ⟨hk, ha⟩ := Located.both_eq_ok hka
  exact ⟨k, a, hk, ha, rfl⟩

end Fields

/-! ## 2. Contexts -/

namespace Context

variable [Zones]

/-- A context is put together of what its fields come to. -/
theorem toOption_decode_record (fields : List (String × Json)) :
    (decode (.ofJson (.record fields))).toOption =
      (Fields.reading "now" Instant.decode none fields).bind fun now =>
      (Fields.reading "timezone" Zone.decode (some .utc) fields).bind fun zone =>
      (Fields.reading "person" Person.decode (some .unknown) fields).bind fun person =>
      (Fields.reading "listing" (Decoder.optional Listing.decode) (some none) fields).map
        fun listing => ⟨now, zone, person, listing⟩ := by
  unfold decode
  rw [Fields.toOption_decoder, Fields.toOption_seq, Fields.toOption_seq, Fields.toOption_seq,
    Fields.toOption_map]
  unfold Fields.required Fields.withDefault Fields.optional
  simp only [Fields.toOption_spelled]
  cases Fields.reading "now" Instant.decode none fields with
  | none => rfl
  | some now =>
      cases Fields.reading "timezone" Zone.decode (some .utc) fields with
      | none => rfl
      | some zone =>
          cases Fields.reading "person" Person.decode (some .unknown) fields <;> rfl

/-- **A record that gives no zone is read as it is, and then taken in the zone of the tenant.** -/
theorem toOption_ofJson_record [Zones.Named] {fields : List (String × Json)}
    (h : Json.lookup? "timezone" fields = none) (tenant : Zone) :
    (ofJson tenant (.record fields)).toOption =
      (decode (.ofJson (.record fields))).toOption.map fun own => { own with zone := tenant } := by
  have hzone : withZone tenant (.record fields) =
      .record (Json.insertField "timezone" (.text tenant.name) fields) :=
    if_neg (by rw [h]; exact Bool.false_ne_true)
  have hnamed : (Zone.decode (.ofJson (.text tenant.name))).toOption = some tenant :=
    congrArg Except.toOption tenant.reads_name.ofJson
  unfold ofJson
  rw [hzone, toOption_decode_record, toOption_decode_record,
    Fields.reading_insertField_of_ne (by decide), Fields.reading_insertField_self h, hnamed,
    Fields.reading_insertField_of_ne (by decide), Fields.reading_insertField_of_ne (by decide),
    Fields.reading_of_lookup?_eq_none h]
  cases Fields.reading "now" Instant.decode none fields with
  | none => rfl
  | some now =>
      cases Fields.reading "person" Person.decode (some .unknown) fields with
      | none => rfl
      | some person =>
          cases Fields.reading "listing" (Decoder.optional Listing.decode) (some none) fields <;> rfl

/-- A record that gives a zone is read as it is. -/
theorem ofJson_record_of_given {fields : List (String × Json)} {w : Json}
    (h : Json.lookup? "timezone" fields = some w) (tenant : Zone) :
    ofJson tenant (.record fields) = decode (.ofJson (.record fields)) := by
  have hzone : withZone tenant (.record fields) = .record fields :=
    if_pos (by rw [h]; rfl)
  unfold ofJson
  rw [hzone]

/-- The zone of a context is what stands under its name in the record. -/
theorem zone_of_decode_record {fields : List (String × Json)} {ctx : Context}
    (h : decode (.ofJson (.record fields)) = .ok ctx) :
    Fields.reading "timezone" Zone.decode (some .utc) fields = some ctx.zone := by
  have hread := (toOption_decode_record fields).symm.trans (congrArg Except.toOption h)
  obtain ⟨now, -, hread⟩ := Option.bind_eq_some_iff.mp hread
  obtain ⟨zone, hzone, hread⟩ := Option.bind_eq_some_iff.mp hread
  obtain ⟨person, -, hread⟩ := Option.bind_eq_some_iff.mp hread
  obtain ⟨listing, -, rfl⟩ := Option.map_eq_some_iff.mp hread
  exact hzone

/-- The zone of a context is what stands in the second place of the list, or else UTC. -/
theorem zone_of_decode_list {items : List Json} {ctx : Context}
    (h : decode (.ofJson (.list items)) = .ok ctx) :
    (∀ w, items[1]? = some w → Zone.decode (.ofJson w) = .ok ctx.zone) ∧
      (items[1]? = none → ctx.zone = .utc) := by
  change Fields.fromItems _ .positional (ofJsonList items) = .ok ctx at h
  have hitems := Fields.ofItems_of_fromItems h
  obtain ⟨withPerson, listing, hperson, -, hctx⟩ := Fields.ofItems_seq hitems
  obtain ⟨withRest, person, hrest, -, rfl⟩ := Fields.ofItems_seq hperson
  obtain ⟨withZone, zone, hnow, hzone, rfl⟩ := Fields.ofItems_seq hrest
  obtain ⟨now, -, rfl⟩ := Fields.ofItems_map hnow
  obtain rfl : ctx.zone = zone := congrArg Context.zone hctx
  match items, hzone with
  | [], hzone => exact ⟨nofun, fun _ => (Except.ok.inj hzone).symm⟩
  | [_], hzone => exact ⟨nofun, fun _ => (Except.ok.inj hzone).symm⟩
  | _ :: w :: _, hzone =>
      refine ⟨?_, nofun⟩
      rintro _ ⟨⟩
      exact Located.ok_of_at hzone

end Context

/-! ## 3. The zone that a value gives -/

/-- What a value gives for the zone of a context: under its name in a record, in the second place of
    a list. -/
def Json.zone? : Json → Option Json
  | .scalar _ => none
  | .list items => items[1]?
  | .record fields => lookup? "timezone" fields

/-- A list that ends before the zone. -/
def Json.Curt (v : Json) : Prop := ∃ items, v = .list items ∧ v.zone? = none

theorem Json.not_curt_record (fields : List (String × Json)) : ¬ (Json.record fields).Curt := by
  rintro ⟨items, hlist, -⟩
  cases hlist

namespace Context

section Placing

variable [Zones]

/-- The context is in the zone that the value gives, or in that of the tenant if it gives none. -/
def Placed (tenant : Zone) (v : Json) (ctx : Context) : Prop :=
  (∀ w, v.zone? = some w → Zone.decode (.ofJson w) = .ok ctx.zone) ∧
    (v.zone? = none → ctx.zone = tenant)

variable [Zones.Named] {tenant : Zone} {ctx : Context}

theorem placed_of_record {fields : List (String × Json)}
    (h : ofJson tenant (.record fields) = .ok ctx) :
    ctx.Placed tenant (.record fields) ∧
      ∃ own, decode (.ofJson (.record fields)) = .ok own ∧ ctx = { own with zone := ctx.zone } := by
  cases hgiven : Json.lookup? "timezone" fields with
  | some w =>
      rw [ofJson_record_of_given hgiven] at h
      refine ⟨⟨fun w' hw => ?_, fun hnone => ?_⟩, ctx, h, rfl⟩
      · exact Fields.decode_of_reading hw (zone_of_decode_record h)
      · exact absurd (hgiven.symm.trans hnone) nofun
  | none =>
      have hread := (toOption_ofJson_record hgiven tenant).symm.trans (congrArg Except.toOption h)
      obtain ⟨own, hown, rfl⟩ := Option.map_eq_some_iff.mp hread
      refine ⟨⟨fun w hw => absurd (hgiven.symm.trans hw) nofun, fun _ => rfl⟩, own, ?_, rfl⟩
      cases hdecode : decode (.ofJson (.record fields)) with
      | error e => rw [hdecode] at hown; cases hown
      | ok own' => rw [hdecode] at hown; exact congrArg Except.ok (Option.some.inj hown)

/-- **A context is in the zone that its value gives, or else in that of the tenant, unless the value
is a list that ends before the zone: then it is in UTC.** Its other parts are those of the value. -/
theorem placed_iff {v : Json} (h : ofJson tenant v = .ok ctx) :
    (ctx.Placed tenant v ↔ ¬ (v.Curt ∧ tenant ≠ .utc)) ∧ (v.Curt → ctx.zone = .utc) ∧
      ∃ own, decode (.ofJson v) = .ok own ∧ ctx = { own with zone := ctx.zone } := by
  match v, h with
  | .scalar s, h => cases s <;> cases h
  | .record fields, h =>
      obtain ⟨hplaced, hown⟩ := placed_of_record h
      have hlong := Json.not_curt_record fields
      exact ⟨iff_of_true hplaced fun hcurt => hlong hcurt.1, fun hcurt => absurd hcurt hlong, hown⟩
  | .list items, h =>
      obtain ⟨hgiven, hnone⟩ := zone_of_decode_list h
      have hutc : (Json.list items).Curt → ctx.zone = .utc := fun ⟨_, _, hcurt⟩ => hnone hcurt
      refine ⟨⟨fun hplaced => ?_, fun hfine => ⟨hgiven, fun hend => ?_⟩⟩, hutc, ctx, h, rfl⟩
      · rintro ⟨⟨_, _, hcurt⟩, hne⟩
        exact hne ((hplaced.2 hcurt).symm.trans (hnone hcurt))
      · have htenant : tenant = .utc :=
          Decidable.of_not_not fun hne => hfine ⟨⟨items, rfl, hend⟩, hne⟩
        rw [htenant]
        exact hnone hend

end Placing

/-- The instant alone, by name, is taken in the zone of a tenant in Denver. -/
theorem placed_iff_denver :
    let tenant : Zone := .denver
    let v : Json := .record [("now", .text "2024-05-01T15:00:00Z")]
    ∃ ctx, ofJson tenant v = .ok ctx ∧ ¬ v.Curt ∧ ctx.Placed tenant v ∧ ctx.zone = tenant := by
  intro tenant v
  have hread : ofJson tenant v = .ok ⟨⟨1714575600, 0⟩, tenant, .unknown, none⟩ := rfl
  have hlong : ¬ v.Curt := Json.not_curt_record _
  exact ⟨_, hread, hlong, (placed_iff hread).1.mpr fun hcurt => hlong hcurt.1, rfl⟩

/-- **The instant alone, by place, is taken in UTC**: at nine in the morning in Denver the hours from
    eight to ten are tested against three in the afternoon, and fail. By name they pass. -/
theorem curt_list_misplaced :
    let tenant : Zone := .denver
    let short : Json := .list [.text "2024-05-01T15:00:00Z"]
    let long : Json := .record [("now", .text "2024-05-01T15:00:00Z")]
    let hours : Window := ⟨none, ⟨28800, 0, by decide⟩, ⟨36000, 0, by decide⟩, none⟩
    let asked : Conditions := { Conditions.none with windows := some [hours] }
    (∃ ctx, ofJson tenant short = .ok ctx ∧ short.zone? = none ∧ ctx.zone = .utc ∧
      ¬ ctx.Placed tenant short) ∧
    (∃ verdicts, evaluateCommand none ⟨short, none, some asked⟩ tenant = .ok verdicts ∧
      verdicts.map (fun verdict => verdict.evaluation.matched) = [false]) ∧
    (∃ verdicts, evaluateCommand none ⟨long, none, some asked⟩ tenant = .ok verdicts ∧
      verdicts.map (fun verdict => verdict.evaluation.matched) = [true]) := by
  intro tenant short long hours asked
  have hread : ofJson tenant short = .ok ⟨⟨1714575600, 0⟩, .utc, .unknown, none⟩ := rfl
  have hne : Zone.utc ≠ tenant := nofun
  refine ⟨⟨_, hread, rfl, rfl, fun hplaced => hne (hplaced.2 rfl)⟩, ⟨_, rfl, ?_⟩, ⟨_, rfl, ?_⟩⟩
  · decide +kernel
  · decide +kernel

end Context

end LeadRouting
