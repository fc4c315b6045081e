import LeadRouting.Document.Decode
import LeadRouting.Proofs.Showing

/-!
# Reading back what was written

A type that is written and read has a writer, which makes a value of it, and a decoder. This file
has the rules by which one sees that the decoder undoes the writer: one rule for each way in which a
decoder is put together, so that the proof for a type follows the type's fields.

* `Decoder.Reads f v a` -- the decoder gives `a` for EVERY document that shows the value `v`, hence
  for the document of `v` and of its normal form (`Decoder.Reads.ofJson`, `.ofJson_normal`);
* `Fields.Reads f fields a` -- the same of the fields of a record, which are found by their names
  wherever they stand; a field is read under its name (`Fields.Reads.spelled`), fields are put
  together (`.seq`), and **all of them together are a record** (`Fields.Reads.decoder`) or a record
  with a tag (`Fields.Reads.tagged`).
-/

namespace LeadRouting

variable {α β : Type}

/-! ## 1. What it is to be read back -/

/-- The decoder reads every document that shows the value as `a`; and the value has a normal form
    with the same entries. -/
structure Decoder.Reads (f : Decoder α) (v : Json) (a : α) : Prop where
  distinct : v.Distinct
  read : ∀ {d}, Shows v d → f d = .ok a

/-- Named documents are there for the fields: no name twice, and under every name a document that
    shows what the fields have under it. -/
structure Fields.Given (fields : List (String × Json)) (named : List (String × Document)) :
    Prop where
  nodup : (named.map Prod.fst).Nodup
  lookup : ∀ name, Option.Rel Shows (Json.lookup? name fields) (Json.lookup? name named)

/-- The declared fields are read as `a` from all documents that are there for the given ones. -/
structure Fields.Reads (f : Fields α) (fields : List (String × Json)) (a : α) : Prop where
  distinct : ∀ name ∈ f.names, ∀ v ∈ Json.lookup? name fields, v.Distinct
  read : ∀ {named}, Fields.Given fields named → f.ofEntries named = .ok a

namespace Decoder

theorem Reads.ofJson {f : Decoder α} {v : Json} {a : α} (h : f.Reads v a) :
    f (.ofJson v) = .ok a := h.read (shows_ofJson v)

theorem Reads.ofJson_normal {f : Decoder α} {v : Json} {a : α} (h : f.Reads v a) :
    f (.ofJson v.normal) = .ok a := h.read (shows_ofJson_normal h.distinct)

/-! ## 2. Scalars, words and free values -/

theorem reads_scalar {f : Decoder α} {s : Scalar} {a : α} (h : f (.scalar s) = .ok a) :
    f.Reads (.scalar s) a where
  distinct := trivial
  read hshows := by cases hshows; exact h

theorem reads_text (s : String) : text.Reads (.text s) s := reads_scalar rfl

theorem reads_bool (b : Bool) : bool.Reads (.bool b) b := reads_scalar rfl

theorem reads_float {x : Float} (h : Number.finite x = true) : float.Reads (.ofFloat x) x := by
  unfold Json.ofFloat
  rw [if_pos h]
  exact reads_scalar rfl

theorem within_eq {lo hi n : Int} (hlo : lo ≤ n) (hhi : n ≤ hi) : within lo hi n = .ok n := by
  unfold within
  rw [if_pos (Bool.and_eq_true_iff.mpr ⟨decide_eq_true hlo, decide_eq_true hhi⟩)]

theorem reads_uint32 (n : UInt32) : uint32.Reads (.int n.toNat) n := by
  refine reads_scalar ?_
  have hwithin : within 0 ((UInt32.size - 1 : Nat) : Int) n.toNat = .ok n.toNat :=
    within_eq (Int.natCast_nonneg _) (Int.ofNat_le.mpr (Nat.le_sub_one_of_lt n.toNat_lt_size))
  change ((within 0 ((UInt32.size - 1 : Nat) : Int) n.toNat).map Int.toNat).map UInt32.ofNat = _
  rw [hwithin]
  exact congrArg Except.ok UInt32.ofNat_toNat

theorem reads_int32 (n : Int32) : int32.Reads (.int n.toInt) n := by
  refine reads_scalar ?_
  change (within Int32.minValue.toInt Int32.maxValue.toInt n.toInt).map Int32.ofInt = _
  rw [within_eq (Int32.minValue_le_toInt n) (Int32.toInt_le n)]
  exact congrArg Except.ok (Int32.ofInt_toInt n)

theorem reads_int64 (n : Int64) : int64.Reads (.int n.toInt) n := by
  refine reads_scalar ?_
  change (within Int64.minValue.toInt Int64.maxValue.toInt n.toInt).map Int64.ofInt = _
  rw [within_eq (Int64.minValue_le_toInt n) (Int64.toInt_le n)]
  exact congrArg Except.ok (Int64.ofInt_toInt n)

/-- A word is read back, as no word stands for two values. -/
theorem reads_named {all : List α} {name : α → String} (hwords : (all.map name).Nodup) {a : α}
    (hmem : a ∈ all) : (named all name).Reads (.text (name a)) a := by
  refine reads_scalar ?_
  have hfind : all.find? (fun b => decide (name b = name a)) = some a := by
    cases hfound : all.find? (fun b => decide (name b = name a)) with
    | none => exact absurd (decide_eq_true rfl) (List.find?_eq_none.mp hfound a hmem)
    | some b =>
        have hb := List.find?_some hfound
        have hin := List.mem_of_find?_eq_some hfound
        rw [List.inj_on_of_nodup_map hwords hin hmem (of_decide_eq_true hb)]
  have hpick : (all.map fun b => (name b, b)).find? (fun e => decide (e.1 = name a)) =
      some (name a, a) := by
    rw [List.find?_map]
    exact congrArg (Option.map _) hfind
  change pick (all.map fun b => (name b, b)) .positional (name a) = _
  unfold pick
  simp only [reduceCtorEq, if_false]
  rw [hpick]

theorem reads_spelledAs {read : String → Option α} {refuse : String → DecodeError} {s : String}
    {a : α} (h : read s = some a) : (spelledAs read refuse).Reads (.text s) a := by
  refine reads_scalar ?_
  unfold spelledAs
  simp only [text, bind, Except.bind, h]
  rfl

theorem reads_value {v : Json} (h : v.Canonical) : value.Reads v v where
  distinct := h.distinct
  read hshows := by
    unfold value
    rw [hshows.toJson? h]

/-! ## 3. Lists and values that may be absent -/

theorem mapM_of_shows {f : Decoder α} {write : α → Json} {xs : List α} {parts : List Document}
    (h : ∀ x ∈ xs, f.Reads (write x) x) (hshows : ShowsList (xs.map write) parts) :
    parts.mapM f = .ok xs := by
  induction xs generalizing parts with
  | nil => cases hshows; rfl
  | cons x rest ih =>
      cases hshows with
      | cons hx hrest =>
          rw [List.mapM_cons, (h x List.mem_cons_self).read hx,
            ih (fun y hy => h y (List.mem_cons_of_mem x hy)) hrest]
          rfl

theorem reads_list {f : Decoder α} {write : α → Json} {xs : List α}
    (h : ∀ x ∈ xs, f.Reads (write x) x) : (list f).Reads (.ofList write xs) xs where
  distinct := by
    refine Json.distinctList_iff.mpr fun v hv => ?_
    obtain ⟨x, hx, rfl⟩ := List.mem_map.mp hv
    exact (h x hx).distinct
  read hshows := by
    cases hshows with
    | list m hitems => exact mapM_of_shows h hitems

/-- What is written as anything but null is read back where it may be absent. -/
theorem reads_some {f : Decoder α} {v : Json} {a : α} (hnull : v ≠ .null) (h : f.Reads v a) :
    (optional f).Reads v (some a) where
  distinct := h.distinct
  read {d} hshows := by
    have hthere : optional f d = (f d).map some := by
      cases hshows with
      | scalar s =>
          cases s with
          | null => exact absurd rfl hnull
          | bool | int | float | text => rfl
      | list | record => rfl
    rw [hthere, h.read hshows]
    rfl

theorem reads_option {f : Decoder α} {write : α → Json} {a : Option α}
    (hnull : ∀ x ∈ a, write x ≠ .null) (h : ∀ x ∈ a, f.Reads (write x) x) :
    (optional f).Reads (.ofOption write a) a := by
  cases a with
  | none => exact reads_scalar rfl
  | some x => exact reads_some (hnull x rfl) (h x rfl)

end Decoder

/-! ## 4. Names of a record -/

/-- The documents of a record under the names that their keys give them. -/
def Document.named (nameOf : Key → String) (entries : List (Key × Document)) :
    List (String × Document) :=
  entries.map fun e => (nameOf e.1, e.2)

namespace ShowsFields

theorem map_fst_named {fields : List (String × Json)} {entries : List (Key × Document)}
    (h : ShowsFields fields entries) {nameOf : Key → String} (hname : ∀ s, nameOf (.text s) = s) :
    (Document.named nameOf entries).map Prod.fst = fields.map Prod.fst := by
  match h with
  | .nil => rfl
  | .cons name _ hrest => exact congrArg₂ _ (hname name) (map_fst_named hrest hname)

theorem lookup?_named {fields : List (String × Json)} {entries : List (Key × Document)}
    (h : ShowsFields fields entries) {nameOf : Key → String} (hname : ∀ s, nameOf (.text s) = s)
    (name : String) :
    Option.Rel Shows (Json.lookup? name fields)
      (Json.lookup? name (Document.named nameOf entries)) := by
  match h with
  | .nil => exact .none
  | .cons name' hv hrest =>
      have hrest := lookup?_named hrest hname name
      unfold Document.named at hrest ⊢
      rw [List.map_cons, Json.lookup?_cons, Json.lookup?_cons, hname]
      split
      · exact .some hv
      · exact hrest

/-- **A document that shows a record without double names has all of its fields**, whatever their
    order. -/
theorem given {fields arranged : List (String × Json)} {entries : List (Key × Document)}
    (h : ShowsFields arranged entries) {nameOf : Key → String}
    (hname : ∀ s, nameOf (.text s) = s) (hnodup : (fields.map Prod.fst).Nodup)
    (hperm : arranged.Perm fields) : Fields.Given fields (Document.named nameOf entries) where
  nodup := by
    rw [h.map_fst_named hname]
    exact (hperm.map Prod.fst).nodup_iff.mpr hnodup
  lookup name := Json.lookup?_perm hnodup hperm name ▸ h.lookup?_named hname name

end ShowsFields

/-! ## 5. One field -/

namespace Fields

theorem occurrences_eq_nil {names : List String} {named : List (String × Document)}
    (h : ∀ e ∈ named, e.1 ∉ names) (i : Nat) :
    (named.zipIdx i).filterMap
      (fun ((k, d), i) => if names.contains k then some (i, d) else .none) = [] := by
  refine List.filterMap_eq_nil_iff.mpr fun e he => ?_
  have hout := h e.1 (List.fst_mem_of_mem_zipIdx he)
  exact if_neg (by rwa [List.contains_iff_mem])

/-- An entry that alone has one of the names is the one that is found under them. -/
theorem occurrences_eq_singleton {names : List String} {named : List (String × Document)}
    {name : String} {d : Document} (hmem : (name, d) ∈ named)
    (hnodup : (named.map Prod.fst).Nodup) (hname : name ∈ names)
    (hothers : ∀ e ∈ named, e.1 ∈ names → e.1 = name) :
    ∃ i, occurrences names named = [(i, d)] := by
  obtain ⟨before, after, rfl⟩ := List.append_of_mem hmem
  -- the entry splits the list, and neither part has one of the names again
  have hout : ∀ e ∈ before ++ after, e.1 ∉ names := by
    intro e he hin
    have hmoved : ((name, d) :: (before ++ after)).Perm (before ++ (name, d) :: after) :=
      List.perm_middle.symm
    have hfresh := (List.nodup_cons.mp ((hmoved.map Prod.fst).nodup_iff.mpr hnodup)).1
    have hsame := hothers e (hmoved.mem_iff.mp (List.mem_cons_of_mem _ he)) hin
    exact hfresh (List.mem_map.mpr ⟨e, he, hsame⟩)
  refine ⟨before.length, ?_⟩
  have hfound : (if names.contains name then some (before.length, d) else .none) =
      some (before.length, d) := if_pos (List.contains_iff_mem.mpr hname)
  unfold occurrences
  rw [List.zipIdx_append, List.zipIdx_cons, List.filterMap_append,
    occurrences_eq_nil fun e he => hout e (List.mem_append_left _ he), List.filterMap_cons,
    occurrences_eq_nil fun e he => hout e (List.mem_append_right _ he)]
  simp only [Nat.zero_add, hfound, List.nil_append]

namespace Reads

variable {f : Decoder α} {fields : List (String × Json)} {name : String}

/-- **A field is read from what was written under its name**, if nothing was written under its other
    spellings. -/
theorem spelled {others : List String} {v : Json} {a : α} {absent : Option α}
    (hfound : Json.lookup? name fields = some v)
    (hothers : ∀ other ∈ others, Json.lookup? other fields = Option.none) (h : f.Reads v a) :
    (Fields.spelled name others f absent).Reads fields a where
  distinct := by
    intro spelling hspelling w hw
    rcases List.mem_cons.mp hspelling with rfl | hother
    · rw [hfound] at hw
      exact Option.some.inj hw ▸ h.distinct
    · rw [hothers spelling (List.append_nil others ▸ hother)] at hw
      cases hw
  read {named} hgiven := by
    obtain ⟨d, hd, hshows⟩ : ∃ d, Json.lookup? name named = some d ∧ Shows v d := by
      have hrel := hgiven.lookup name
      rw [hfound] at hrel
      cases hfound' : Json.lookup? name named with
      | none => rw [hfound'] at hrel; cases hrel
      | some d => rw [hfound'] at hrel; cases hrel with | some hshows => exact ⟨d, rfl, hshows⟩
    have hothers' : ∀ e ∈ named, e.1 ∈ name :: others → e.1 = name := by
      intro e he hin
      rcases List.mem_cons.mp hin with heq | hother
      · exact heq
      · have hrel := hgiven.lookup e.1
        rw [hothers e.1 hother, Json.lookup?_of_mem hgiven.nodup he] at hrel
        cases hrel
    obtain ⟨i, hoccurs⟩ := occurrences_eq_singleton (Json.mem_of_lookup? hd) hgiven.nodup
      List.mem_cons_self hothers'
    unfold Fields.spelled
    simp only [hoccurs, h.read hshows]
    rfl

/-- A field with one spelling is read from what was written under it. -/
theorem alone {v : Json} {a : α} {absent : Option α} (hfound : Json.lookup? name fields = some v)
    (h : f.Reads v a) : (Fields.spelled name [] f absent).Reads fields a :=
  spelled hfound (fun _ hother => absurd hother List.not_mem_nil) h

/-- A field with two spellings is read from what was written under the first. -/
theorem aliased {other : String} {v : Json} {a : α} {absent : Option α}
    (hfound : Json.lookup? name fields = some v) (hother : Json.lookup? other fields = Option.none)
    (h : f.Reads v a) : (Fields.spelled name [other] f absent).Reads fields a :=
  spelled hfound (fun _ hin => List.mem_singleton.mp hin ▸ hother) h

theorem required {v : Json} {a : α} (hfound : Json.lookup? name fields = some v)
    (h : f.Reads v a) : (Fields.required name f).Reads fields a := alone hfound h

theorem withDefault {v : Json} {a otherwise : α} (hfound : Json.lookup? name fields = some v)
    (h : f.Reads v a) : (Fields.withDefault name f otherwise).Reads fields a := alone hfound h

/-- A field that may be null is read from what was written, null or not. -/
theorem optional {write : α → Json} {a : Option α}
    (hfound : Json.lookup? name fields = some (.ofOption write a))
    (hnull : ∀ x ∈ a, write x ≠ .null) (h : ∀ x ∈ a, f.Reads (write x) x) :
    (Fields.optional name f).Reads fields a := alone hfound (Decoder.reads_option hnull h)

/-- A field that may be left out is read as nothing where nothing was written. -/
theorem absent (hfound : Json.lookup? name fields = Option.none) :
    (Fields.optional name f).Reads fields Option.none where
  distinct := by
    intro spelling hspelling w hw
    rw [List.mem_singleton.mp hspelling, hfound] at hw
    cases hw
  read {named} hgiven := by
    have hrel := hgiven.lookup name
    rw [hfound] at hrel
    have hoccurs : occurrences [name] named = [] := by
      refine occurrences_eq_nil (fun e he hin => ?_) 0
      rw [← List.mem_singleton.mp hin, Json.lookup?_of_mem hgiven.nodup he] at hrel
      cases hrel
    unfold Fields.optional Fields.spelled
    simp only [hoccurs]

/-- A field that is written only if there is something to write is read back. -/
theorem skipped {write : α → Json} {a : Option α}
    (hfound : Json.lookup? name fields = a.map write)
    (hnull : ∀ x ∈ a, write x ≠ .null) (h : ∀ x ∈ a, f.Reads (write x) x) :
    (Fields.optional name f).Reads fields a := by
  cases a with
  | none => exact absent hfound
  | some x => exact optional hfound hnull h

/-! ## 6. Fields together -/

theorem map {f : Fields α} {a : α} (g : α → β) (h : f.Reads fields a) :
    (g <$> f).Reads fields (g a) where
  distinct := h.distinct
  read hgiven := congrArg (Except.map g) (h.read hgiven)

theorem seq {f : Fields (α → β)} {g : Fields α} {h : α → β} {a : α} (hf : f.Reads fields h)
    (hg : g.Reads fields a) : (f <*> g).Reads fields (h a) where
  distinct := by
    intro name hname
    have hnames : (f <*> g).names = f.names ++ g.names := List.flatten_append
    rcases List.mem_append.mp (hnames ▸ hname) with hleft | hright
    · exact hf.distinct name hleft
    · exact hg.distinct name hright
  read {named} hgiven := by
    have hboth : (f.both g).ofEntries named = .ok (h, a) := by
      unfold Fields.both
      simp only [hf.read hgiven, hg.read hgiven]
      rfl
    change Except.map _ ((f.both g).ofEntries named) = _
    rw [hboth]
    rfl

end Reads

/-! ## 7. Records -/

variable {f : Fields α} {fields : List (String × Json)} {a : α}

theorem unknownName_eq_ok {names : List String} {named : List (String × Document)}
    (h : ∀ name ∈ named.map Prod.fst, name ∈ names) : unknownName names named = .ok () := by
  have hfind : named.zipIdx.find? (fun ((k, _), _) => !names.contains k) = .none := by
    refine List.find?_eq_none.mpr fun e he hunknown => ?_
    have hname := h e.1.1 (List.mem_map_of_mem (List.fst_mem_of_mem_zipIdx he))
    have hunknown : (!names.contains e.1.1) = true := hunknown
    rw [List.contains_iff_mem.mpr hname] at hunknown
    cases hunknown
  unfold unknownName
  rw [hfind]

/-- **What was written under declared names is read back by name**, in whatever order it stands. -/
theorem Reads.fromEntries (h : f.Reads fields a) (hnames : (fields.map Prod.fst).Sublist f.names)
    (hnodup : f.names.Nodup) {arranged : List (String × Json)} {entries : List (Key × Document)}
    (hperm : arranged.Perm fields) (hshows : ShowsFields arranged entries) (closed : Bool) :
    f.fromEntries closed entries = .ok a := by
  have hgiven : Given fields (Document.named f.nameOf entries) :=
    hshows.given (fun _ => rfl) (hnames.nodup hnodup) hperm
  have hknown : (if closed then unknownName f.names (Document.named f.nameOf entries)
      else .ok ()) = .ok () := by
    split
    · refine unknownName_eq_ok fun name hname => hnames.subset ?_
      rw [hshows.map_fst_named fun _ => rfl] at hname
      exact (hperm.map Prod.fst).mem_iff.mp hname
    · rfl
  change Located.forget ((Located.both
    (if closed then unknownName f.names (Document.named f.nameOf entries) else .ok ())
    (f.ofEntries (Document.named f.nameOf entries))).map Prod.snd) = _
  rw [hknown, h.read hgiven]
  rfl

theorem Reads.distinctFields (h : f.Reads fields a)
    (hnames : (fields.map Prod.fst).Sublist f.names) (hnodup : f.names.Nodup) :
    Json.DistinctFields fields := by
  refine Json.distinctFields_iff.mpr fun e he => ?_
  have hname := hnames.subset (List.mem_map_of_mem he)
  exact h.distinct e.1 hname e.2 (Json.lookup?_of_mem (hnames.nodup hnodup) he)

/-- **A record that was written under the names of its fields is read back.** -/
theorem Reads.decoder (h : f.Reads fields a) (hnames : (fields.map Prod.fst).Sublist f.names)
    (hnodup : f.names.Nodup) (closed : Bool) : (f.decoder closed).Reads (.record fields) a where
  distinct := ⟨hnames.nodup hnodup, h.distinctFields hnames hnodup⟩
  read hshows := by
    cases hshows with
    | record m hperm hfields => exact h.fromEntries hnames hnodup hperm hfields closed

/-- Of a record with a tag in front the tag and the other fields can be told apart, wherever they
    stand. -/
theorem split_tag {tag : String} {v : Json} (htag : tag ∉ fields.map Prod.fst)
    {arranged : List (String × Json)} (hperm : arranged.Perm ((tag, v) :: fields)) :
    arranged.filter (fun f => f.1 = tag) = [(tag, v)] ∧
      (arranged.filter fun f => f.1 ≠ tag).Perm fields := by
  have hother : ∀ f ∈ fields, f.1 ≠ tag := fun f hf heq => htag (List.mem_map.mpr ⟨f, hf, heq⟩)
  constructor
  · have htags := hperm.filter fun f => decide (f.1 = tag)
    have hnone : fields.filter (fun f => decide (f.1 = tag)) = [] :=
      List.filter_eq_nil_iff.mpr fun f hf heq => hother f hf (of_decide_eq_true heq)
    rw [List.filter_cons, if_pos (decide_eq_true rfl), hnone] at htags
    exact List.perm_singleton.mp htags
  · have hothers := hperm.filter fun f => decide (f.1 ≠ tag)
    have hall : fields.filter (fun f => decide (f.1 ≠ tag)) = fields :=
      List.filter_eq_self.mpr fun f hf => decide_eq_true (hother f hf)
    have htag : ¬ decide (tag ≠ tag) = true := fun hne => of_decide_eq_true hne rfl
    rwa [List.filter_cons, if_neg htag, hall] at hothers

/-- **A record that was written with a tag in front is read back**: the tag is found by its name,
    and the rest is read by the fields of the kind that it names. -/
theorem Reads.tagged {tag kind : String} {kinds : List (String × Fields α)}
    (h : f.Reads fields a) (hkind : Json.lookup? kind kinds = some f)
    (hnames : (fields.map Prod.fst).Sublist f.names) (hnodup : (tag :: f.names).Nodup)
    (closed : Bool) :
    (Decoder.tagged tag kinds closed).Reads (.record ((tag, .text kind) :: fields)) a := by
  obtain ⟨hout, hnodup⟩ := List.nodup_cons.mp hnodup
  have htag : tag ∉ fields.map Prod.fst := fun hmem => hout (hnames.subset hmem)
  refine ⟨⟨List.nodup_cons.mpr ⟨htag, hnames.nodup hnodup⟩, trivial,
    h.distinctFields hnames hnodup⟩, fun hshows => ?_⟩
  cases hshows with
  | @record m _ arranged entries hperm hfields =>
      obtain ⟨htags, hfields'⟩ := split_tag htag hperm
      have htagged : ShowsFields (arranged.filter fun f => f.1 = tag)
          (entries.filter fun e => e.1.name? = some tag) :=
        hfields.filter fun name _ _ => decide_eq_decide.mpr (Option.some_inj)
      have hrest : ShowsFields (arranged.filter fun f => f.1 ≠ tag)
          (entries.filter fun e => e.1.name? ≠ some tag) :=
        hfields.filter fun name _ _ => decide_eq_decide.mpr (not_congr Option.some_inj)
      have hfilter : entries.filter (fun e => e.1.name? = some tag) =
          [(.text tag, .scalar (.text kind))] := by
        rw [htags] at htagged
        generalize entries.filter (fun e => e.1.name? = some tag) = tagEntries at htagged ⊢
        cases htagged with
        | cons _ hkind hnil => cases hkind; cases hnil; rfl
      have hkindOf : Decoder.kindOf kinds (.scalar (.text kind)) = .ok f := by
        unfold Decoder.kindOf
        simp only [Decoder.text, bind, Except.bind, hkind]
        rfl
      -- what stands beside the tag is buffered before it is read
      obtain ⟨entries', hsettle, hrest⟩ := hrest.settle?
      unfold Decoder.tagged
      simp only [hfilter, hsettle, hkindOf]
      exact h.fromEntries hnames hnodup hfields' hrest closed

end Fields

end LeadRouting
