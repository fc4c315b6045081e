import LeadRouting.Document.Decode
import LeadRouting.Proofs.Shapes

/-!
# Decoders that pass over nothing

A decoder that is handed a value may read all of it or pass over a part: a name that no field has,
a second spelling of a field, an item behind the last field. This file has the rules by which one
sees that it takes NOTHING that is not in its shape, one rule for each way in which a decoder is put
together.

* `Decoder.Follows f S` -- whatever the decoder takes is declared at every place of the shape;
* `Fields.Follows f table` -- the same of the fields of a record, each with its spellings
  (`Fields.Follows.spelled`, `.seq`);
* **`Fields.Follows.decoder`**, **`Fields.Follows.tagged`** -- a record that is closed follows the
  shape that its fields give it, with a tag or without one.

The rules are about values, read as they are or buffered first (`Document.ofJsonIn`). The tables of
settings are left out: there a list may have more items than the record has fields.
-/

namespace LeadRouting

variable {α β : Type}

/-! ## 1. Values in a manner -/

namespace Document

mutual

/-- The value as a document, its lists and records in one manner throughout. -/
def ofJsonIn (m : Manner) : Json → Document
  | .scalar s => .scalar s
  | .list items => .list m (ofListIn m items)
  | .record fields => .record m (ofFieldsIn m fields)

/-- The values of a list as documents. -/
def ofListIn (m : Manner) : List Json → List Document
  | [] => []
  | v :: rest => ofJsonIn m v :: ofListIn m rest

/-- The entries of a record as documents. -/
def ofFieldsIn (m : Manner) : List (String × Json) → List (Key × Document)
  | [] => []
  | (name, v) :: rest => (.text name, ofJsonIn m v) :: ofFieldsIn m rest

end

mutual

theorem ofJsonIn_positional : ∀ v, ofJsonIn .positional v = ofJson v
  | .scalar _ => rfl
  | .list items => congrArg _ (ofListIn_positional items)
  | .record fields => congrArg _ (ofFieldsIn_positional fields)

theorem ofListIn_positional : ∀ items, ofListIn .positional items = ofJsonList items
  | [] => rfl
  | v :: rest => congrArg₂ _ (ofJsonIn_positional v) (ofListIn_positional rest)

theorem ofFieldsIn_positional : ∀ fields, ofFieldsIn .positional fields = ofJsonFields fields
  | [] => rfl
  | (name, v) :: rest =>
      congrArg₂ (fun d more => (Key.text name, d) :: more) (ofJsonIn_positional v)
        (ofFieldsIn_positional rest)

end

mutual

/-- Buffering changes nothing but the manner. -/
theorem settle?_ofJsonIn (m : Manner) : ∀ v, (ofJsonIn m v).settle? = some (ofJsonIn .buffered v)
  | .scalar _ => rfl
  | .list items => congrArg (Option.map _) (settleList?_ofListIn m items)
  | .record fields => congrArg (Option.map _) (settleEntries?_ofFieldsIn m fields)

theorem settleList?_ofListIn (m : Manner) : ∀ items,
    settleList? (ofListIn m items) = some (ofListIn .buffered items)
  | [] => rfl
  | v :: rest => by
      rw [ofListIn, settleList?, settle?_ofJsonIn m v, settleList?_ofListIn m rest]
      rfl

theorem settleEntries?_ofFieldsIn (m : Manner) : ∀ fields,
    settleEntries? (ofFieldsIn m fields) = some (ofFieldsIn .buffered fields)
  | [] => rfl
  | (name, v) :: rest => by
      rw [ofFieldsIn, settleEntries?, settle?_ofJsonIn m v, settleEntries?_ofFieldsIn m rest]
      rfl

end

theorem ofListIn_eq (m : Manner) (items : List Json) :
    ofListIn m items = items.map (ofJsonIn m) := by
  induction items with
  | nil => rfl
  | cons v rest ih => exact congrArg _ ih

theorem ofFieldsIn_eq (m : Manner) (fields : List (String × Json)) :
    ofFieldsIn m fields = fields.map fun e => (.text e.1, ofJsonIn m e.2) := by
  induction fields with
  | nil => rfl
  | cons e rest ih => exact congrArg _ ih

end Document

open Document

/-! ## 2. Scalars and words -/

/-- Whatever the decoder takes is declared at every place of the shape. -/
def Decoder.Follows (f : Decoder α) (S : Shape) : Prop :=
  ∀ ⦃m v a⦄, m ≠ .lenient → f (ofJsonIn m v) = .ok a → S.Everywhere v

/-- What a decoder of a shape takes from a value that is read is declared. -/
theorem Decoder.Follows.ofJson {f : Decoder α} {S : Shape} (h : f.Follows S) {v : Json} {a : α}
    (hread : f (.ofJson v) = .ok a) : S.Everywhere v :=
  h (m := .positional) nofun ((ofJsonIn_positional v).symm ▸ hread)

namespace Decoder

variable {f : Decoder α} {S : Shape}

theorem ok_of_map {ε : Type} {g : α → β} {r : Except ε α} {b : β} (h : r.map g = .ok b) :
    ∃ a, r = .ok a := by
  cases r with
  | error e => cases h
  | ok a => exact ⟨a, rfl⟩

theorem follows_free (f : Decoder α) : f.Follows .free := fun _ v _ _ _ => Shape.everywhere_free v

/-- A decoder that refuses lists and records takes nothing but scalars. -/
theorem follows_scalar (hlist : ∀ m parts a, f (.list m parts) ≠ .ok a)
    (hrecord : ∀ m entries a, f (.record m entries) ≠ .ok a) : f.Follows .scalar := by
  intro m v a _ hread
  cases v with
  | scalar s => exact Shape.everywhere_scalar _ s
  | list items => exact absurd hread (hlist _ _ _)
  | record fields => exact absurd hread (hrecord _ _ _)

theorem follows_text : text.Follows .scalar := follows_scalar nofun nofun

theorem follows_bool : bool.Follows .scalar := follows_scalar nofun nofun

theorem follows_float : float.Follows .scalar := follows_scalar nofun nofun

theorem follows_uint32 : uint32.Follows .scalar := follows_scalar nofun nofun

theorem follows_int32 : int32.Follows .scalar := follows_scalar nofun nofun

theorem follows_spelledAs (read : String → Option α) (refuse : String → DecodeError) :
    (spelledAs read refuse).Follows .scalar := follows_scalar nofun nofun

/-- What stands for nothing has nothing in it. -/
theorem eq_of_isNothing {m : Manner} {v : Json} (hm : m ≠ .lenient)
    (h : isNothing m (ofJsonIn m v) = true) : v = .null ∨ v = .record [] := by
  cases m with
  | lenient => exact absurd rfl hm
  | positional | named | buffered =>
      match v, h with
      | .null, _ => exact .inl rfl
      | .record [], _ => exact .inr rfl

theorem mem_of_pick {words : List (String × α)} {m : Manner} {s : String} {a : α}
    (hm : m ≠ .lenient) (h : pick words m s = .ok a) : s ∈ words.map Prod.fst := by
  unfold pick at h
  simp only [hm, if_false] at h
  split at h
  · rename_i w b hfound
    have hword := List.find?_some hfound
    exact List.mem_map.mpr ⟨(w, b), List.mem_of_find?_eq_some hfound, of_decide_eq_true hword⟩
  · cases h

/-- **A word is a scalar, or a record with one of the words and nothing else.** -/
theorem follows_word (words : List (String × α)) :
    (word words).Follows (.word (words.map Prod.fst)) := by
  intro m v a hm hread
  cases v with
  | scalar s => exact Shape.everywhere_scalar _ s
  | list items => cases hread
  | record fields =>
      refine Shape.everywhere_of_parts ?_ nofun
      match fields, hread with
      | [(name, v)], hread =>
          change (pickKey words m (.text name) >>= fun a =>
            if isNothing m (ofJsonIn m v) then return a else wrongKind _) = _ at hread
          cases hpick : pickKey words m (.text name) with
          | error e => rw [hpick] at hread; cases hread
          | ok b =>
              rw [hpick] at hread
              cases hnothing : isNothing m (ofJsonIn m v) with
              | false =>
                  change (if isNothing m (ofJsonIn m v) then return b else wrongKind _) = _ at hread
                  rw [hnothing] at hread
                  cases hread
              | true =>
                  refine ⟨name, mem_of_pick hm hpick, ?_⟩
                  obtain rfl | rfl := eq_of_isNothing hm hnothing
                  · exact .inl rfl
                  · exact .inr rfl

theorem follows_named (all : List α) (name : α → String) :
    (named all name).Follows (.word (all.map name)) := by
  have hwords : (all.map fun a => (name a, a)).map Prod.fst = all.map name := List.map_map
  exact hwords ▸ follows_word (all.map fun a => (name a, a))

/-! ## 3. Lists and values that may be absent -/

theorem ok_of_mapM {ds : List Document} {as : List α} (h : ds.mapM f = .ok as) :
    ∀ d ∈ ds, ∃ a, f d = .ok a := by
  induction ds generalizing as with
  | nil => exact fun d hd => absurd hd List.not_mem_nil
  | cons d rest ih =>
      rw [List.mapM_cons] at h
      cases hd : f d with
      | error e => rw [hd] at h; cases h
      | ok a =>
          cases hrest : rest.mapM f with
          | error e => rw [hd, hrest] at h; cases h
          | ok bs =>
              rintro d' hd'
              rcases List.mem_cons.mp hd' with rfl | hd'
              · exact ⟨a, hd⟩
              · exact ih hrest d' hd'

theorem Follows.list (h : f.Follows S) : (Decoder.list f).Follows (.list S) := by
  intro m v a hm hread
  cases v with
  | scalar s => exact Shape.everywhere_scalar _ s
  | record fields => cases hread
  | list items =>
      refine Shape.everywhere_of_parts trivial ?_
      rintro S' v (⟨hmem⟩ | _)
      have hitems : (items.map (ofJsonIn m)).mapM f = .ok a := ofListIn_eq m items ▸ hread
      obtain ⟨b, hb⟩ := ok_of_mapM hitems _ (List.mem_map_of_mem hmem)
      exact h hm hb

/-- Null stands for nothing, and has nothing in it. -/
theorem Follows.optional (h : f.Follows S) : (Decoder.optional f).Follows S := by
  intro m v a hm hread
  cases v with
  | scalar s => exact Shape.everywhere_scalar _ s
  | list items =>
      obtain ⟨b, hb⟩ := ok_of_map hread
      exact h hm hb
  | record fields =>
      obtain ⟨b, hb⟩ := ok_of_map hread
      exact h hm hb

end Decoder

/-! ## 4. One field -/

/-- The entries of a record as the fields are handed them. -/
def Document.namedIn (m : Manner) (fields : List (String × Json)) : List (String × Document) :=
  fields.map fun e => (e.1, ofJsonIn m e.2)

/-- **What the fields take is declared**, be it given by name or by place. -/
structure Fields.Follows (f : Fields α) (table : Shape.Table) : Prop where
  spellings : f.spellings = table.map Prod.fst
  byName : ∀ ⦃m fields a⦄, m ≠ .lenient → f.ofEntries (namedIn m fields) = .ok a →
    ∀ entry ∈ table, (fields.filter fun e => e.1 ∈ entry.1).length ≤ 1 ∧
      ∀ e ∈ fields, e.1 ∈ entry.1 → entry.2.Everywhere e.2
  byPlace : ∀ ⦃m i items a⦄, m ≠ .lenient → f.ofItems i (ofListIn m items) = .ok a →
    ∀ ⦃n : Nat⦄ ⦃entry v⦄, table[n]? = some entry → items[n]? = some v → entry.2.Everywhere v

namespace Located

theorem ok_of_at {i : Nat} {r : Except DecodeError α} {a : α} (h : at_ i r = .ok a) :
    r = .ok a := by
  cases r with
  | error e => cases h
  | ok b => cases h; rfl

theorem ok_of_forget {r : Located α} {a : α} (h : forget r = .ok a) : r = .ok a := by
  cases r with
  | error e => cases h
  | ok b => cases h; rfl

theorem both_eq_ok {r : Located α} {r' : Located β} {a : α} {b : β}
    (h : both r r' = .ok (a, b)) : r = .ok a ∧ r' = .ok b := by
  cases r with
  | error e => cases r' <;> cases h
  | ok a =>
      cases r' with
      | error e => cases h
      | ok b => cases h; exact ⟨rfl, rfl⟩

end Located

namespace Fields

/-- The values that are found under some names are those of the entries that have one of them. -/
theorem map_snd_occurrences (names : List String) (entries : List (String × Document)) :
    (occurrences names entries).map Prod.snd =
      (entries.filter fun e => e.1 ∈ names).map Prod.snd := by
  have hfrom : ∀ i, ((entries.zipIdx i).filterMap fun e =>
      if names.contains e.1.1 then some (e.2, e.1.2) else .none).map Prod.snd =
        (entries.filter fun e => e.1 ∈ names).map Prod.snd := by
    induction entries with
    | nil => exact fun _ => rfl
    | cons e rest ih =>
        intro i
        rw [List.zipIdx_cons, List.filterMap_cons, List.filter_cons]
        by_cases h : e.1 ∈ names
        · have hc : names.contains e.1 = true := List.contains_iff_mem.mpr h
          simp only [hc, h, decide_true, if_true, List.map_cons]
          exact congrArg _ (ih _)
        · have hc : names.contains e.1 = false := by rw [List.contains_eq_mem, decide_eq_false h]
          simp only [hc, h, decide_false, Bool.false_eq_true, if_false]
          exact ih _
  exact hfrom 0

/-- The entries of a value under some names are found one by one. -/
theorem map_snd_occurrences_namedIn (names : List String) (m : Manner)
    (fields : List (String × Json)) :
    (occurrences names (namedIn m fields)).map Prod.snd =
      (fields.filter fun e => e.1 ∈ names).map fun e => ofJsonIn m e.2 := by
  rw [map_snd_occurrences, namedIn, List.filter_map, List.map_map]
  rfl

/-- The keys of a value are names as they stand. -/
theorem map_nameOf_ofFieldsIn (f : Fields α) (m : Manner) (fields : List (String × Json)) :
    (ofFieldsIn m fields).map (fun e => (f.nameOf e.1, e.2)) = namedIn m fields := by
  rw [ofFieldsIn_eq, List.map_map]
  rfl

namespace Follows

/-- **Of a field's spellings no two are given, and what stands under the one that is given is
    declared.** -/
theorem spelled {f : Decoder α} {S : Shape} (h : f.Follows S) (name : String)
    (others : List String) (absent : Option α) :
    (Fields.spelled name others f absent).Follows [(name :: others, S)] where
  spellings := rfl
  byName := by
    intro m fields a hm hread entry hentry
    cases List.mem_singleton.mp hentry
    have hfound := map_snd_occurrences_namedIn (name :: others) m fields
    simp only [Fields.spelled] at hread
    split at hread
    · -- nothing under the spellings
      rename_i hnone
      rw [hnone] at hfound
      have hempty := List.map_eq_nil_iff.mp hfound.symm
      refine ⟨by rw [hempty]; exact Nat.zero_le 1, fun e he hname => ?_⟩
      exact absurd (decide_eq_true hname) (List.filter_eq_nil_iff.mp hempty e he)
    · -- one entry, which is read
      rename_i i d hone
      rw [hone] at hfound
      obtain ⟨e, hsingle, rfl⟩ := List.map_eq_singleton_iff.mp hfound.symm
      have hb := Located.ok_of_at hread
      refine ⟨by rw [hsingle]; exact Nat.le_refl 1, fun e' he' hname => ?_⟩
      have hsame : e' ∈ fields.filter fun e => e.1 ∈ name :: others :=
        List.mem_filter.mpr ⟨he', decide_eq_true hname⟩
      rw [hsingle] at hsame
      rw [List.mem_singleton.mp hsame]
      exact h hm hb
    · -- a second one is refused
      obtain ⟨b, hb⟩ := Decoder.ok_of_map hread
      cases (Located.both_eq_ok hb).2
  byPlace := by
    intro m i items a hm hread n entry v hentry hitem
    cases items with
    | nil => cases hitem
    | cons w rest =>
        have hb := Located.ok_of_at hread
        cases n with
        | zero =>
            cases hentry
            cases hitem
            exact h hm hb
        | succ n => cases hentry

theorem required {f : Decoder α} {S : Shape} (h : f.Follows S) {name : String} :
    (Fields.required name f).Follows [([name], S)] := spelled h name [] Option.none

theorem withDefault {f : Decoder α} {S : Shape} (h : f.Follows S) {name : String} {a : α} :
    (Fields.withDefault name f a).Follows [([name], S)] := spelled h name [] (some a)

theorem optional {f : Decoder α} {S : Shape} (h : f.Follows S) {name : String} :
    (Fields.optional name f).Follows [([name], S)] := spelled h.optional name [] (some .none)

/-! ## 5. Fields together -/

variable {table more : Shape.Table}

theorem map {f : Fields α} (g : α → β) (h : f.Follows table) : (g <$> f).Follows table where
  spellings := h.spellings
  byName := by
    intro m fields b hm hread
    obtain ⟨a, ha⟩ := Decoder.ok_of_map hread
    exact h.byName hm ha
  byPlace := by
    intro m i items b hm hread
    obtain ⟨a, ha⟩ := Decoder.ok_of_map hread
    exact h.byPlace hm ha

theorem seq {f : Fields (α → β)} {g : Fields α} {both : Shape.Table} (hf : f.Follows table)
    (hg : g.Follows more) (hboth : table ++ more = both) : (f <*> g).Follows both := by
  subst hboth
  refine ⟨?_, ?_, ?_⟩
  · rw [List.map_append, ← hf.spellings, ← hg.spellings]
    rfl
  · intro m fields b hm hread
    obtain ⟨⟨k, a⟩, hka⟩ := Decoder.ok_of_map hread
    obtain ⟨hk, ha⟩ := Located.both_eq_ok hka
    intro entry hentry
    rcases List.mem_append.mp hentry with hleft | hright
    · exact hf.byName hm hk entry hleft
    · exact hg.byName hm ha entry hright
  · intro m i items b hm hread n entry v hentry hitem
    obtain ⟨⟨k, a⟩, hka⟩ := Decoder.ok_of_map hread
    obtain ⟨hk, ha⟩ := Located.both_eq_ok hka
    have hwidth : f.width = table.length := by
      rw [Fields.width, hf.spellings, List.length_map]
    by_cases hn : n < table.length
    · rw [List.getElem?_append_left hn] at hentry
      exact hf.byPlace hm hk hentry hitem
    · -- the second fields begin where the first ones end
      have hn := Nat.le_of_not_lt hn
      rw [List.getElem?_append_right hn] at hentry
      have ha : g.ofItems (i + f.width) (ofListIn m (items.drop table.length)) = .ok a := by
        rw [ofListIn_eq, List.map_drop, ← ofListIn_eq, ← hwidth]
        exact ha
      refine hg.byPlace hm ha hentry ?_
      rw [List.getElem?_drop, Nat.add_sub_cancel' hn]
      exact hitem

end Follows

/-! ## 6. Records -/

theorem mem_of_unknownName {names : List String} {named : List (String × Document)}
    (h : unknownName names named = .ok ()) : ∀ e ∈ named, e.1 ∈ names := by
  intro e he
  by_contra hunknown
  obtain ⟨i, hi, rfl⟩ := List.getElem_of_mem he
  have hentry : (named[i], i) ∈ named.zipIdx := List.mem_zipIdx_iff_getElem?.mpr (by simp [hi])
  unfold unknownName at h
  split at h
  · cases h
  · rename_i hnone
    have hknown := List.find?_eq_none.mp hnone _ hentry
    simp [hunknown] at hknown

namespace Follows

variable {f : Fields α} {table : Shape.Table} {m : Manner} {a : α}

/-- What a closed record takes by name is declared. -/
theorem fromEntries (h : f.Follows table) (hm : m ≠ .lenient) {fields : List (String × Json)}
    (hread : f.fromEntries true (ofFieldsIn m fields) = .ok a) :
    Declared (table.map Prod.fst) fields ∧
      ∀ S v, Shape.Part (.record table) (.record fields) S v → S.Everywhere v := by
  obtain ⟨⟨u, b⟩, hboth⟩ : ∃ ub, Located.both (unknownName f.names (namedIn m fields))
      (f.ofEntries (namedIn m fields)) = .ok ub := by
    rw [← map_nameOf_ofFieldsIn]
    exact Decoder.ok_of_map (Located.ok_of_forget hread)
  obtain ⟨hknown, hb⟩ := Located.both_eq_ok hboth
  refine ⟨⟨fun e he => ?_, fun names hnames => ?_⟩, ?_⟩
  · have hname := mem_of_unknownName hknown (e.1, ofJsonIn m e.2) (List.mem_map_of_mem he)
    rw [names, h.spellings] at hname
    exact List.mem_flatten.mp hname
  · obtain ⟨entry, hentry, rfl⟩ := List.mem_map.mp hnames
    exact (h.byName hm hb entry hentry).1
  · rintro S v (_ | ⟨hentry, hname, hmem⟩)
    exact (h.byName hm hb _ hentry).2 _ hmem hname

/-- What a record takes by place is declared. -/
theorem fromItems (h : f.Follows table) (hm : m ≠ .lenient) {items : List Json}
    (hread : f.fromItems m (ofListIn m items) = .ok a) :
    items.length ≤ table.length ∧
      ∀ S v, Shape.Part (.record table) (.list items) S v → S.Everywhere v := by
  have hwidth : f.width = table.length := by
    rw [Fields.width, h.spellings, List.length_map]
  have hlength : (ofListIn m items).length = items.length := by
    rw [ofListIn_eq, List.length_map]
  unfold Fields.fromItems at hread
  split at hread
  · cases hread
  · cases hitems : f.ofItems 0 (ofListIn m items) with
    | error e => rw [hitems] at hread; cases hread
    | ok b =>
        refine ⟨?_, ?_⟩
        · -- with more items than fields the reading fails
          by_contra hmore
          have htoo : (decide (m ≠ .lenient) && decide (f.width < (ofListIn m items).length)) =
              true := by
            rw [hwidth, hlength, decide_eq_true hm, decide_eq_true (Nat.lt_of_not_le hmore)]
            rfl
          simp only [hitems, htoo, if_true] at hread
          cases hread
        · rintro S v (_ | _ | ⟨hentry, hitem⟩)
          exact h.byPlace hm hitems hentry hitem

/-- **What a closed record takes is declared at every place.** -/
theorem decoder (h : f.Follows table) : (f.decoder true).Follows (.record table) := by
  intro m v a hm hread
  cases v with
  | scalar s => exact Shape.everywhere_scalar _ s
  | list items =>
      obtain ⟨hlength, hparts⟩ := h.fromItems hm hread
      exact Shape.everywhere_of_parts hlength hparts
  | record fields =>
      obtain ⟨hdeclared, hparts⟩ := h.fromEntries hm hread
      exact Shape.everywhere_of_parts hdeclared hparts

/-! ## 7. Records of several kinds -/

/-- The kinds follow their tables one by one, under the same names. -/
abbrev Kinds (kinds : List (String × Fields α)) (tables : List (String × Shape.Table)) : Prop :=
  List.Forall₂ (fun k t => k.1 = t.1 ∧ k.2.Follows t.2) kinds tables

theorem lookup?_of_kinds {kinds : List (String × Fields α)}
    {tables : List (String × Shape.Table)} (h : Kinds kinds tables) {kind : String}
    (hkind : Json.lookup? kind kinds = some f) :
    ∃ table, Json.lookup? kind tables = some table ∧ f.Follows table := by
  induction h with
  | nil => cases hkind
  | cons hfirst _ ih =>
      rw [Json.lookup?_cons] at hkind ⊢
      rw [← hfirst.1]
      split at hkind
      · cases hkind
        exact ⟨_, if_pos ‹_›, hfirst.2⟩
      · rw [if_neg ‹_›]
        exact ih hkind

theorem of_kindOf {kinds : List (String × Fields α)} {m : Manner} {v : Json}
    (h : Decoder.kindOf kinds (ofJsonIn m v) = .ok f) :
    ∃ kind, v = .text kind ∧ Json.lookup? kind kinds = some f := by
  match v, h with
  | .text kind, h =>
      refine ⟨kind, rfl, ?_⟩
      unfold Decoder.kindOf at h
      simp only [ofJsonIn, Decoder.text, bind, Except.bind] at h
      split at h
      · rename_i hfound
        cases h
        exact hfound
      · cases h

/-- What was buffered is not read leniently. -/
theorem buffered_ne_lenient : Manner.buffered ≠ .lenient := by decide

/-- The entries under a tag, as a document. -/
theorem filter_name?_eq (tag : String) (fields : List (String × Json)) :
    (ofFieldsIn m fields).filter (fun (k, _) => k.name? = some tag) =
      ofFieldsIn m (fields.filter fun e => e.1 = tag) := by
  rw [ofFieldsIn_eq, ofFieldsIn_eq, List.filter_map]
  refine congrArg _ (List.filter_congr fun e _ => ?_)
  exact decide_eq_decide.mpr Option.some_inj

/-- The entries beside a tag, as a document. -/
theorem filter_name?_ne (tag : String) (fields : List (String × Json)) :
    (ofFieldsIn m fields).filter (fun (k, _) => k.name? ≠ some tag) =
      ofFieldsIn m (fields.filter fun e => e.1 ≠ tag) := by
  rw [ofFieldsIn_eq, ofFieldsIn_eq, List.filter_map]
  refine congrArg _ (List.filter_congr fun e _ => ?_)
  exact decide_eq_decide.mpr (not_congr Option.some_inj)

variable {tag : String} {kinds : List (String × Fields α)}
  {tables : List (String × Shape.Table)}

/-- What is taken by place, the tag first, is declared. -/
theorem taggedItems (h : Kinds kinds tables) {items : List Json}
    (hread : Decoder.tagged tag kinds true (.list m (ofListIn m items)) = .ok a) :
    (Shape.tagged tag tables).Everywhere (.list items) := by
  cases items with
  | nil => cases hread
  | cons v rest =>
      change (Decoder.kindOf kinds (ofJsonIn m v) >>= fun f =>
        Decoder.settled (settleList? (ofListIn m rest)) >>= f.fromItems .buffered) = _ at hread
      cases hkind : Decoder.kindOf kinds (ofJsonIn m v) with
      | error e => rw [hkind] at hread; cases hread
      | ok f =>
          rw [hkind, settleList?_ofListIn] at hread
          obtain ⟨kind, rfl, hlookup⟩ := of_kindOf hkind
          obtain ⟨table, htable, hfollows⟩ := lookup?_of_kinds h hlookup
          have hrest : f.fromItems .buffered (ofListIn .buffered rest) = .ok a := hread
          obtain ⟨hlength, hparts⟩ := hfollows.fromItems buffered_ne_lenient hrest
          refine Shape.everywhere_of_parts ⟨kind, table, rest, htable, rfl, hlength⟩ ?_
          rintro S w (_ | _ | _ | _ | ⟨hother, hpart⟩)
          cases htable.symm.trans hother
          exact hparts S w hpart

/-- What is taken by name, the tag wherever it stands, is declared. -/
theorem taggedEntries (h : Kinds kinds tables) {fields : List (String × Json)}
    (hread : Decoder.tagged tag kinds true (.record m (ofFieldsIn m fields)) = .ok a) :
    (Shape.tagged tag tables).Everywhere (.record fields) := by
  unfold Decoder.tagged at hread
  simp only [filter_name?_eq, filter_name?_ne] at hread
  cases htags : fields.filter (fun e => e.1 = tag) with
  | nil => rw [htags] at hread; cases hread
  | cons entry more =>
      obtain ⟨name, v⟩ := entry
      obtain rfl : name = tag := by
        have hmem : (name, v) ∈ fields.filter fun e => e.1 = tag := htags ▸ List.mem_cons_self
        exact of_decide_eq_true (List.mem_filter.mp hmem).2
      rw [htags] at hread
      simp only [ofFieldsIn, settleEntries?_ofFieldsIn] at hread
      cases hkind : Decoder.kindOf kinds (ofJsonIn m v) with
      | error e => rw [hkind] at hread; cases hread
      | ok f =>
          rw [hkind] at hread
          cases more with
          | cons e more => cases hread
          | nil =>
              obtain ⟨kind, rfl, hlookup⟩ := of_kindOf hkind
              obtain ⟨table, htable, hfollows⟩ := lookup?_of_kinds h hlookup
              have hrest : f.fromEntries true
                  (ofFieldsIn .buffered (fields.filter fun e => e.1 ≠ name)) = .ok a := hread
              obtain ⟨hdeclared, hparts⟩ := hfollows.fromEntries buffered_ne_lenient hrest
              refine Shape.everywhere_of_parts ⟨kind, table, htable, htags, hdeclared⟩ ?_
              rintro S w (_ | _ | _ | @⟨_, other, _, _, _, _, _, hother, hmem, hpart⟩)
              -- there is one tag, so there is one table
              have htag : (name, .text other) ∈ fields.filter fun e => e.1 = name :=
                List.mem_filter.mpr ⟨hmem, decide_eq_true rfl⟩
              rw [htags] at htag
              cases List.mem_singleton.mp htag
              cases htable.symm.trans hother
              exact hparts S w hpart

/-- **What a closed record with a tag takes is declared at every place**, for the kind that its tag
    names. -/
theorem tagged (h : Kinds kinds tables) :
    (Decoder.tagged tag kinds true).Follows (.tagged tag tables) := by
  intro m v a _ hread
  cases v with
  | scalar s => exact Shape.everywhere_scalar _ s
  | list items => exact taggedItems h hread
  | record fields => exact taggedEntries h hread

end Follows

end Fields

end LeadRouting
