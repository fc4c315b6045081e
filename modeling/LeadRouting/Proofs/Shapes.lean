import LeadRouting.Proofs.Records

/-!
# What there may be in a value

A rule file is written by hand, and a name that is misspelled in it should not be passed over. A
`Shape` says what there may be in a value: scalars, words, lists, records of declared fields, and
records whose fields depend on a tag. A value is then gone through place by place.

* `Shape.Place` -- the places of a value, at whatever depth, and the shape that each is read with;
* `Shape.Declares` -- what stands at a place is declared: in a record every name is that of a field,
  and no field is given twice;
* **`Shape.Everywhere.covers`** -- where all places are like this, no part with something in it
  is without a place, unless it stands in one that may be anything.
-/

namespace LeadRouting

/-! ## 1. Shapes -/

/-- What there may be in a value. -/
inductive Shape where
  /-- Anything. -/
  | free
  /-- A text, a number, a truth value or null. -/
  | scalar
  /-- One of some words, be it as the only name of a record over nothing. -/
  | word (words : List String)
  | list (item : Shape)
  /-- The fields of a record, each with its spellings. -/
  | record (table : List (List String × Shape))
  /-- A record with a tag, and the fields of each kind that the tag may name. -/
  | tagged (tag : String) (kinds : List (String × List (List String × Shape)))

/-- The value is the other one or a part of it, at whatever depth. -/
inductive Json.Within : Json → Json → Prop where
  | self {v : Json} : Within v v
  | item {v w : Json} {items : List Json} : v ∈ items → Within w v → Within w (.list items)
  | entry {w : Json} {e : String × Json} {fields : List (String × Json)} :
      e ∈ fields → Within w e.2 → Within w (.record fields)

/-- The value has nothing in it. -/
def Json.Bare (v : Json) : Prop := (∃ s, v = .scalar s) ∨ v = .record []

theorem Json.Bare.within {v w : Json} (h : v.Bare) (hin : w.Within v) : w.Bare := by
  cases hin with
  | self => exact h
  | item _ _ => obtain ⟨s, hs⟩ | hs := h <;> cases hs
  | entry he _ =>
      obtain ⟨s, hs⟩ | hs := h
      · cases hs
      · cases hs
        exact absurd he List.not_mem_nil

/-- The names of the entries are spellings of fields, and no field is given twice, be it in two
    spellings. -/
structure Declared (spellings : List (List String)) (fields : List (String × Json)) : Prop where
  known : ∀ e ∈ fields, ∃ names ∈ spellings, e.1 ∈ names
  once : ∀ names ∈ spellings, (fields.filter fun e => e.1 ∈ names).length ≤ 1

namespace Shape

/-- The fields of a record: the spellings of each and its shape. -/
abbrev Table := List (List String × Shape)

/-- What the value has at its first level is declared. -/
def Declares : Shape → Json → Prop
  | .free, _ => True
  | _, .scalar _ => True
  | .word words, .record fields =>
    ∃ word ∈ words, fields = [(word, .null)] ∨ fields = [(word, .record [])]
  | .list _, .list _ => True
  | .record table, .record fields => Declared (table.map Prod.fst) fields
  | .record table, .list items => items.length ≤ table.length
  | .tagged tag kinds, .record fields =>
    ∃ kind table, Json.lookup? kind kinds = some table ∧
      fields.filter (fun e => e.1 = tag) = [(tag, .text kind)] ∧
      Declared (table.map Prod.fst) (fields.filter fun e => e.1 ≠ tag)
  | .tagged _ kinds, .list items =>
    ∃ kind table rest, Json.lookup? kind kinds = some table ∧ items = .text kind :: rest ∧
      rest.length ≤ table.length
  | _, _ => False

/-! ## 2. Places -/

/-- The parts of a value that a shape knows of, with their shapes: the items of a list, and the
    fields of a record, by name or by place. -/
inductive Part : Shape → Json → Shape → Json → Prop where
  | item {S : Shape} {items : List Json} {v : Json} :
      v ∈ items → Part (.list S) (.list items) S v
  | field {table : Table} {fields : List (String × Json)} {names : List String} {S : Shape}
      {name : String} {v : Json} :
      (names, S) ∈ table → name ∈ names → (name, v) ∈ fields →
        Part (.record table) (.record fields) S v
  | place {table : Table} {items : List Json} {n : Nat} {names : List String} {S : Shape}
      {v : Json} :
      table[n]? = some (names, S) → items[n]? = some v →
        Part (.record table) (.list items) S v
  | beside {tag kind : String} {kinds : List (String × Table)} {table : Table}
      {fields : List (String × Json)} {S : Shape} {v : Json} :
      Json.lookup? kind kinds = some table → (tag, .text kind) ∈ fields →
        Part (.record table) (.record (fields.filter fun e => e.1 ≠ tag)) S v →
          Part (.tagged tag kinds) (.record fields) S v
  | behind {tag kind : String} {kinds : List (String × Table)} {table : Table}
      {items : List Json} {S : Shape} {v : Json} :
      Json.lookup? kind kinds = some table → Part (.record table) (.list items) S v →
        Part (.tagged tag kinds) (.list (.text kind :: items)) S v

/-- The places of a value, at whatever depth, and the shape that each of them is read with. -/
inductive Place : Shape → Json → Shape → Json → Prop where
  | here {S : Shape} {v : Json} : Place S v S v
  | within {S S' T : Shape} {v v' w : Json} : Part S v S' v' → Place S' v' T w → Place S v T w

/-- All that the value has is declared. -/
def Everywhere (S : Shape) (v : Json) : Prop := ∀ T w, Place S v T w → T.Declares w

variable {S : Shape} {v : Json}

theorem everywhere_of_parts (h : S.Declares v)
    (hparts : ∀ S' v', Part S v S' v' → S'.Everywhere v') : S.Everywhere v := by
  intro T w hplace
  cases hplace with
  | here => exact h
  | within hpart hrest => exact hparts _ _ hpart T w hrest

theorem Everywhere.part (h : S.Everywhere v) {S' : Shape} {v' : Json} (hpart : Part S v S' v') :
    S'.Everywhere v' := fun T w hplace => h T w (.within hpart hplace)

theorem everywhere_free (v : Json) : Shape.free.Everywhere v :=
  everywhere_of_parts trivial nofun

theorem everywhere_scalar (S : Shape) (s : Scalar) : S.Everywhere (.scalar s) := by
  refine everywhere_of_parts ?_ nofun
  cases S <;> trivial

/-! ## 3. No part is without a place -/

/-- The item of a list has a place of its own, or it is the tag in front of a record. -/
theorem part_of_item {items : List Json} (h : S.Declares (.list items)) (hv : v ∈ items) :
    S = .free ∨ v.Bare ∨ ∃ S', Part S (.list items) S' v := by
  cases S with
  | free => exact .inl rfl
  | scalar | word words => exact h.elim
  | list item => exact .inr (.inr ⟨item, .item hv⟩)
  | record table =>
      obtain ⟨n, hn, rfl⟩ := List.getElem_of_mem hv
      have hlength : items.length ≤ table.length := h
      have hn' : n < table.length := Nat.lt_of_lt_of_le hn hlength
      exact .inr (.inr ⟨_, .place (List.getElem?_eq_getElem hn') (List.getElem?_eq_getElem hn)⟩)
  | tagged tag kinds =>
      obtain ⟨kind, table, rest, htable, rfl, hlength⟩ := h
      rcases List.mem_cons.mp hv with rfl | hv
      · exact .inr (.inl (.inl ⟨_, rfl⟩))
      · obtain ⟨n, hn, rfl⟩ := List.getElem_of_mem hv
        have hn' : n < table.length := Nat.lt_of_lt_of_le hn hlength
        exact .inr (.inr ⟨_, .behind htable
          (.place (List.getElem?_eq_getElem hn') (List.getElem?_eq_getElem hn))⟩)

/-- What stands under a name has a place of its own, or it is a tag or nothing at all. -/
theorem part_of_entry {fields : List (String × Json)} {e : String × Json}
    (h : S.Declares (.record fields)) (he : e ∈ fields) :
    S = .free ∨ e.2.Bare ∨ ∃ S', Part S (.record fields) S' e.2 := by
  have hfield : ∀ {table : Table} {fields : List (String × Json)},
      Declared (table.map Prod.fst) fields → e ∈ fields →
        ∃ S', Part (.record table) (.record fields) S' e.2 := by
    intro table fields hdeclared he
    obtain ⟨names, hnames, hname⟩ := hdeclared.known e he
    obtain ⟨entry, hentry, rfl⟩ := List.mem_map.mp hnames
    exact ⟨entry.2, .field hentry hname he⟩
  cases S with
  | free => exact .inl rfl
  | scalar | list item => exact h.elim
  | word words =>
      obtain ⟨word, _, rfl | rfl⟩ := h
      · exact .inr (.inl (.inl ⟨.null, List.mem_singleton.mp he ▸ rfl⟩))
      · exact .inr (.inl (.inr (List.mem_singleton.mp he ▸ rfl)))
  | record table => exact .inr (.inr (hfield h he))
  | tagged tag kinds =>
      obtain ⟨kind, table, htable, htag, hdeclared⟩ := h
      by_cases hname : e.1 = tag
      · have hmem : e ∈ fields.filter fun e => e.1 = tag :=
          List.mem_filter.mpr ⟨he, decide_eq_true hname⟩
        rw [htag] at hmem
        exact .inr (.inl (.inl ⟨.text kind, List.mem_singleton.mp hmem ▸ rfl⟩))
      · obtain ⟨S', hpart⟩ := hfield hdeclared (List.mem_filter.mpr ⟨he, decide_eq_true hname⟩)
        have htext : (tag, .text kind) ∈ fields.filter fun e => e.1 = tag :=
          htag ▸ List.mem_singleton_self _
        exact .inr (.inr ⟨S', .beside htable (List.mem_filter.mp htext).1 hpart⟩)

/-- **In a value all of which is declared, every part with something in it has a place**, unless it
    stands in one that is free. -/
theorem Everywhere.covers (h : S.Everywhere v) {w : Json} (hin : w.Within v) (hne : ¬ w.Bare) :
    (∃ T, Place S v T w) ∨ ∃ u, Place S v .free u ∧ w.Within u := by
  induction hin generalizing S with
  | self => exact .inl ⟨S, .here⟩
  | item hv hin ih =>
      obtain rfl | hbare | ⟨S', hpart⟩ := part_of_item (h S _ .here) hv
      · exact .inr ⟨_, .here, .item hv hin⟩
      · exact absurd (hbare.within hin) hne
      · obtain ⟨T, hplace⟩ | ⟨u, hplace, hin⟩ := ih (h.part hpart) hne
        · exact .inl ⟨T, .within hpart hplace⟩
        · exact .inr ⟨u, .within hpart hplace, hin⟩
  | entry he hin ih =>
      obtain rfl | hbare | ⟨S', hpart⟩ := part_of_entry (h S _ .here) he
      · exact .inr ⟨_, .here, .entry he hin⟩
      · exact absurd (hbare.within hin) hne
      · obtain ⟨T, hplace⟩ | ⟨u, hplace, hin⟩ := ih (h.part hpart) hne
        · exact .inl ⟨T, .within hpart hplace⟩
        · exact .inr ⟨u, .within hpart hplace, hin⟩

end Shape

end LeadRouting
