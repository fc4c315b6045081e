import LeadRouting.Document.Basic
import LeadRouting.Proofs.Records

/-!
# Documents that show a value

A value that is written and handed to a reader comes back as a document, and not always as the same
one: the entries of a record may have been put in order, and what stands beside a tag has been
buffered. `Shows v d` says that the document is STILL the value: the same scalars, the same lists,
and in every record the same entries in some order.

* `shows_ofJson`, `shows_ofJson_normal` -- the document of a value shows it, and so does the
  document of its normal form, as long as no record has a name twice (`Json.Distinct`);
* `Shows.settle?` -- buffering a document that shows a value goes through, and the result shows the
  value as well;
* **`Shows.toJson?`**: a document that shows a value in normal form without infinities
  (`Json.Canonical`) reads as exactly that value; and every value that a document is read as is one
  of these (`Document.toJson?_canonical`).
-/

namespace LeadRouting

/-! ## 1. The relation -/

mutual

/-- The document is the value, the entries of its records in some order and its lists and records in
    some manner. -/
inductive Shows : Json → Document → Prop where
  | scalar (s : Scalar) : Shows (.scalar s) (.scalar s)
  | list (m : Manner) {items : List Json} {parts : List Document} :
      ShowsList items parts → Shows (.list items) (.list m parts)
  | record (m : Manner) {fields arranged : List (String × Json)}
      {entries : List (Key × Document)} :
      arranged.Perm fields → ShowsFields arranged entries →
        Shows (.record fields) (.record m entries)

/-- The documents are the values, one by one. -/
inductive ShowsList : List Json → List Document → Prop where
  | nil : ShowsList [] []
  | cons {v : Json} {d : Document} {items : List Json} {parts : List Document} :
      Shows v d → ShowsList items parts → ShowsList (v :: items) (d :: parts)

/-- The entries are the fields, one by one, each under its name. -/
inductive ShowsFields : List (String × Json) → List (Key × Document) → Prop where
  | nil : ShowsFields [] []
  | cons (name : String) {v : Json} {d : Document} {fields : List (String × Json)}
      {entries : List (Key × Document)} :
      Shows v d → ShowsFields fields entries →
        ShowsFields ((name, v) :: fields) ((.text name, d) :: entries)

end

namespace ShowsFields

/-- **The fields go with their entries into any order.** -/
theorem arrange {fields : List (String × Json)} {entries entries' : List (Key × Document)}
    (h : ShowsFields fields entries) (hperm : entries'.Perm entries) :
    ∃ arranged, List.Perm arranged fields ∧ ShowsFields arranged entries' := by
  induction hperm generalizing fields with
  | nil => exact ⟨fields, .refl _, h⟩
  | cons e _ ih =>
      cases h with
      | cons name hv hrest =>
          obtain ⟨arranged, hperm, hshows⟩ := ih hrest
          exact ⟨_ :: arranged, hperm.cons _, .cons name hv hshows⟩
  | swap e e' rest =>
      cases h with
      | cons name hv hrest =>
          cases hrest with
          | cons name' hv' hrest =>
              exact ⟨_ :: _ :: _, .swap _ _ _, .cons name' hv' (.cons name hv hrest)⟩
  | trans _ _ ih ih' =>
      obtain ⟨between, hperm', hshows'⟩ := ih' h
      obtain ⟨arranged, hperm, hshows⟩ := ih hshows'
      exact ⟨arranged, hperm.trans hperm', hshows⟩

/-- Fields and entries that are left out together leave fields and entries that belong together. -/
theorem filter {fields : List (String × Json)} {entries : List (Key × Document)}
    (h : ShowsFields fields entries) {p : String × Json → Bool} {q : Key × Document → Bool}
    (hpq : ∀ name v d, q (.text name, d) = p (name, v)) :
    ShowsFields (fields.filter p) (entries.filter q) := by
  match h with
  | .nil => exact .nil
  | .cons name (v := v) (d := d) hv hrest =>
      rw [List.filter_cons, List.filter_cons, hpq name v d]
      split
      · exact .cons name hv (filter hrest hpq)
      · exact filter hrest hpq

end ShowsFields

/-! ## 2. Values of one spelling -/

namespace Json

mutual

/-- No record in the value has a name twice. -/
def Distinct : Json → Prop
  | .scalar _ => True
  | .list items => DistinctList items
  | .record fields => (fields.map Prod.fst).Nodup ∧ DistinctFields fields

/-- No record in the values has a name twice. -/
def DistinctList : List Json → Prop
  | [] => True
  | v :: rest => v.Distinct ∧ DistinctList rest

/-- No record in the values of the fields has a name twice. -/
def DistinctFields : List (String × Json) → Prop
  | [] => True
  | (_, v) :: rest => v.Distinct ∧ DistinctFields rest

end

mutual

/-- The value is one that a program keeps: its floats are finite, and the names of every record in
    it ascend. -/
def Canonical : Json → Prop
  | .float x => Number.finite x = true
  | .scalar _ => True
  | .list items => CanonicalList items
  | .record fields => fields.Pairwise (fun f g => f.1 < g.1) ∧ CanonicalFields fields

/-- The values are such that a program keeps. -/
def CanonicalList : List Json → Prop
  | [] => True
  | v :: rest => v.Canonical ∧ CanonicalList rest

/-- The values of the fields are such that a program keeps. -/
def CanonicalFields : List (String × Json) → Prop
  | [] => True
  | (_, v) :: rest => v.Canonical ∧ CanonicalFields rest

end

theorem distinctList_iff {items : List Json} :
    DistinctList items ↔ ∀ v ∈ items, v.Distinct := by
  induction items with
  | nil => simp [DistinctList]
  | cons v rest ih => simp [DistinctList, ih]

theorem distinctFields_iff {fields : List (String × Json)} :
    DistinctFields fields ↔ ∀ f ∈ fields, f.2.Distinct := by
  induction fields with
  | nil => simp [DistinctFields]
  | cons f rest ih => simp [DistinctFields, ih]

theorem canonicalFields_iff {fields : List (String × Json)} :
    CanonicalFields fields ↔ ∀ f ∈ fields, f.2.Canonical := by
  induction fields with
  | nil => simp [CanonicalFields]
  | cons f rest ih => simp [CanonicalFields, ih]

mutual

/-- Ascending names are distinct. -/
theorem Canonical.distinct : ∀ {v : Json}, v.Canonical → v.Distinct
  | .scalar _, _ => trivial
  | .list _, h => CanonicalList.distinct h
  | .record _, ⟨hnames, hfields⟩ => ⟨nodup_of_ascending hnames, CanonicalFields.distinct hfields⟩

theorem CanonicalList.distinct : ∀ {items : List Json}, CanonicalList items → DistinctList items
  | [], _ => trivial
  | _ :: _, ⟨hv, hrest⟩ => ⟨hv.distinct, CanonicalList.distinct hrest⟩

theorem CanonicalFields.distinct : ∀ {fields : List (String × Json)},
    CanonicalFields fields → DistinctFields fields
  | [], _ => trivial
  | (_, _) :: _, ⟨hv, hrest⟩ => ⟨hv.distinct, CanonicalFields.distinct hrest⟩

end

end Json

/-! ## 3. Documents of values -/

namespace Document

theorem ofJsonFields_eq (fields : List (String × Json)) :
    ofJsonFields fields = fields.map fun f => (.text f.1, ofJson f.2) := by
  induction fields with
  | nil => rfl
  | cons f rest ih => exact congrArg _ ih

end Document

open Document

mutual

/-- **The document of a value shows it.** -/
theorem shows_ofJson : ∀ v, Shows v (ofJson v)
  | .scalar s => .scalar s
  | .list items => .list _ (showsList_ofJson items)
  | .record fields => .record _ (.refl _) (showsFields_ofJson fields)

theorem showsList_ofJson : ∀ items, ShowsList items (ofJsonList items)
  | [] => .nil
  | v :: rest => .cons (shows_ofJson v) (showsList_ofJson rest)

theorem showsFields_ofJson : ∀ fields, ShowsFields fields (ofJsonFields fields)
  | [] => .nil
  | (name, v) :: rest => .cons name (shows_ofJson v) (showsFields_ofJson rest)

end

mutual

/-- **The document of the normal form shows the value**, where no name stands twice. -/
theorem shows_ofJson_normal : ∀ {v : Json}, v.Distinct → Shows v (ofJson v.normal)
  | .scalar s, _ => .scalar s
  | .list _, h => .list _ (showsList_ofJson_normal h)
  | .record fields, ⟨hnames, hfields⟩ => by
      have hnodup : ((Json.normalFields fields).map Prod.fst).Nodup :=
        (Json.map_fst_normalFields fields).symm ▸ hnames
      -- sorting only moves the entries, and the fields go with them
      have hsorted : (ofJsonFields (Json.sortFields (Json.normalFields fields))).Perm
          (ofJsonFields (Json.normalFields fields)) := by
        rw [ofJsonFields_eq, ofJsonFields_eq]
        exact (Json.sortFields_perm hnodup).map _
      obtain ⟨arranged, hperm, hshows⟩ := (showsFields_ofJson_normal hfields).arrange hsorted
      exact .record _ hperm hshows

theorem showsList_ofJson_normal : ∀ {items : List Json}, Json.DistinctList items →
    ShowsList items (ofJsonList (Json.normalList items))
  | [], _ => .nil
  | _ :: _, ⟨hv, hrest⟩ => .cons (shows_ofJson_normal hv) (showsList_ofJson_normal hrest)

theorem showsFields_ofJson_normal : ∀ {fields : List (String × Json)},
    Json.DistinctFields fields → ShowsFields fields (ofJsonFields (Json.normalFields fields))
  | [], _ => .nil
  | (name, _) :: _, ⟨hv, hrest⟩ =>
      .cons name (shows_ofJson_normal hv) (showsFields_ofJson_normal hrest)

end

/-! ## 4. Buffering -/

mutual

/-- **A document that shows a value is buffered as one that shows it.** -/
theorem Shows.settle? : ∀ {v : Json} {d : Document}, Shows v d →
    ∃ d', d.settle? = some d' ∧ Shows v d'
  | _, _, .scalar s => ⟨.scalar s, rfl, .scalar s⟩
  | _, _, .list m hitems => by
      obtain ⟨parts', hsettle, hshows⟩ := hitems.settle?
      exact ⟨.list .buffered parts', congrArg (Option.map _) hsettle, .list _ hshows⟩
  | _, _, .record m hperm hfields => by
      obtain ⟨entries', hsettle, hshows⟩ := hfields.settle?
      exact ⟨.record .buffered entries', congrArg (Option.map _) hsettle, .record _ hperm hshows⟩

theorem ShowsList.settle? : ∀ {items : List Json} {parts : List Document},
    ShowsList items parts → ∃ parts', settleList? parts = some parts' ∧ ShowsList items parts'
  | _, _, .nil => ⟨[], rfl, .nil⟩
  | _, _, .cons hv hrest => by
      obtain ⟨d', hd, hshows⟩ := hv.settle?
      obtain ⟨parts', hparts, hrests⟩ := hrest.settle?
      refine ⟨d' :: parts', ?_, .cons hshows hrests⟩
      rw [settleList?, hd, hparts]
      rfl

theorem ShowsFields.settle? : ∀ {fields : List (String × Json)} {entries : List (Key × Document)},
    ShowsFields fields entries →
      ∃ entries', settleEntries? entries = some entries' ∧ ShowsFields fields entries'
  | _, _, .nil => ⟨[], rfl, .nil⟩
  | _, _, .cons name hv hrest => by
      obtain ⟨d', hd, hshows⟩ := hv.settle?
      obtain ⟨entries', hentries, hrests⟩ := hrest.settle?
      refine ⟨(.text name, d') :: entries', ?_, .cons name hshows hrests⟩
      rw [settleEntries?, hd, hentries]
      rfl

end

/-! ## 5. Reading a value back -/

theorem valueOf_of_canonical {s : Scalar} (h : (Json.scalar s).Canonical) :
    valueOf s = .scalar s := by
  cases s with
  | float x => exact if_pos h
  | null | bool b | int n | text s => rfl

theorem valueOf_canonical (s : Scalar) : (valueOf s).Canonical := by
  cases s with
  | float x =>
      change (Json.ofFloat x).Canonical
      unfold Json.ofFloat
      split
      · assumption
      · trivial
  | null | bool b | int n | text s => trivial

mutual

/-- **A document that shows a value that a program keeps reads as that value.** -/
theorem Shows.toJson? : ∀ {v : Json} {d : Document}, Shows v d → v.Canonical →
    d.toJson? = some v
  | _, _, .scalar s, h => congrArg some (valueOf_of_canonical h)
  | _, _, .list m hitems, h => congrArg (Option.map _) (hitems.toJson? h)
  | _, _, .record m hperm hfields, ⟨hnames, hvalues⟩ => by
      -- the entries may stand in another order, but reading sorts them
      have hcanonical := Json.canonicalFields_iff.mpr fun f hf =>
        Json.canonicalFields_iff.mp hvalues f (hperm.mem_iff.mp hf)
      rw [Document.toJson?, hfields.toJson? hcanonical, Option.map_some,
        Json.sortFields_of_perm hnames hperm]

theorem ShowsList.toJson? : ∀ {items : List Json} {parts : List Document},
    ShowsList items parts → Json.CanonicalList items → toJsonList? parts = some items
  | _, _, .nil, _ => rfl
  | _, _, .cons hv hrest, ⟨hcanonical, hcanonicals⟩ => by
      rw [toJsonList?, hv.toJson? hcanonical, hrest.toJson? hcanonicals]
      rfl

theorem ShowsFields.toJson? : ∀ {fields : List (String × Json)}
    {entries : List (Key × Document)}, ShowsFields fields entries →
      Json.CanonicalFields fields → toJsonFields? entries = some fields
  | _, _, .nil, _ => rfl
  | _, _, .cons name hv hrest, ⟨hcanonical, hcanonicals⟩ => by
      rw [toJsonFields?, hv.toJson? hcanonical, hrest.toJson? hcanonicals]
      rfl

end

mutual

/-- **Whatever a document is read as is a value that a program keeps.** -/
theorem Document.toJson?_canonical : ∀ {d : Document} {v : Json}, d.toJson? = some v → v.Canonical
  | .scalar s, _, h | .lenient s, _, h => Option.some.inj h ▸ valueOf_canonical s
  | .plain raw, _, h => by
      obtain ⟨s, _, rfl⟩ := Option.map_eq_some_iff.mp h
      exact valueOf_canonical s
  | .list m parts, _, h => by
      obtain ⟨items, hitems, rfl⟩ := Option.map_eq_some_iff.mp h
      exact toJsonList?_canonical hitems
  | .record m entries, _, h => by
      obtain ⟨fields, hfields, rfl⟩ := Option.map_eq_some_iff.mp h
      have hcanonical := Json.canonicalFields_iff.mp (toJsonFields?_canonical hfields)
      exact ⟨Json.sortFields_ascending fields, Json.canonicalFields_iff.mpr fun f hf =>
        hcanonical f (Json.mem_of_mem_sortFields hf)⟩
  | .broken, _, h => nomatch h

theorem Document.toJsonList?_canonical : ∀ {parts : List Document} {items : List Json},
    toJsonList? parts = some items → Json.CanonicalList items
  | [], _, h => Option.some.inj h ▸ trivial
  | d :: rest, _, h => by
      obtain ⟨v, hv, hrest⟩ := Option.bind_eq_some_iff.mp h
      obtain ⟨items, hitems, rfl⟩ := Option.map_eq_some_iff.mp hrest
      exact ⟨toJson?_canonical hv, toJsonList?_canonical hitems⟩

theorem Document.toJsonFields?_canonical : ∀ {entries : List (Key × Document)}
    {fields : List (String × Json)}, toJsonFields? entries = some fields →
      Json.CanonicalFields fields
  | [], _, h => Option.some.inj h ▸ trivial
  | (k, d) :: rest, _, h => by
      unfold toJsonFields? at h
      obtain ⟨name, _, h⟩ := Option.bind_eq_some_iff.mp h
      obtain ⟨v, hv, h⟩ := Option.bind_eq_some_iff.mp h
      obtain ⟨fields, hfields, h⟩ := Option.bind_eq_some_iff.mp h
      cases h
      exact ⟨toJson?_canonical hv, toJsonFields?_canonical hfields⟩

end

end LeadRouting
