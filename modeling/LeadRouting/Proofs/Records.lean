import Mathlib.Data.List.Nodup
import LeadRouting.Json.Basic

/-!
# Records by name

A record is a list of named entries, read by look-up and kept in the order of the names. This file
says when the ORDER of the entries does not matter: as long as no name stands twice.

* `Json.lookup?_of_mem` -- every entry is then found under its name, and `Json.lookup?_perm` -- in
  whatever order the entries stand;
* `Json.sortFields_perm` -- sorting then only moves the entries;
* `Json.sortFields_ascending` -- what is sorted ascends strictly, so **sorting undoes whatever a
  sorted record was brought into** (`Json.sortFields_of_perm`).
-/

namespace LeadRouting.Json

variable {α : Type}

/-! ## 1. Look-up -/

theorem lookup?_cons (name : String) (f : String × α) (rest : List (String × α)) :
    lookup? name (f :: rest) = if f.1 = name then some f.2 else lookup? name rest := by
  unfold lookup?
  rw [List.find?_cons]
  by_cases h : f.1 = name
  · simp [h]
  · simp [h]

theorem lookup?_append (name : String) (fields more : List (String × α)) :
    lookup? name (fields ++ more) = (lookup? name fields).or (lookup? name more) := by
  induction fields with
  | nil => rfl
  | cons f rest ih =>
      rw [List.cons_append, lookup?_cons, lookup?_cons, ih]
      split
      · rfl
      · rfl

theorem mem_of_lookup? {name : String} {fields : List (String × α)} {a : α}
    (h : lookup? name fields = some a) : (name, a) ∈ fields := by
  induction fields with
  | nil => cases h
  | cons f rest ih =>
      rw [lookup?_cons] at h
      split at h
      · rename_i hname
        cases h
        exact hname ▸ List.mem_cons_self
      · exact List.mem_cons_of_mem f (ih h)

theorem not_mem_of_lookup? {name : String} {fields : List (String × α)}
    (h : lookup? name fields = none) : name ∉ fields.map Prod.fst := by
  induction fields with
  | nil => exact List.not_mem_nil
  | cons f rest ih =>
      rw [lookup?_cons] at h
      split at h
      · cases h
      · rename_i hne
        exact List.not_mem_cons_of_ne_of_not_mem (Ne.symm hne) (ih h)

/-- Where no name stands twice, every entry is found under its name. -/
theorem lookup?_of_mem {name : String} {fields : List (String × α)} {a : α}
    (hnodup : (fields.map Prod.fst).Nodup) (h : (name, a) ∈ fields) :
    lookup? name fields = some a := by
  cases hfound : lookup? name fields with
  | none => exact absurd (List.mem_map_of_mem h) (not_mem_of_lookup? hfound)
  | some b =>
      have hsame := List.inj_on_of_nodup_map hnodup (mem_of_lookup? hfound) h rfl
      exact congrArg (fun f => some f.2) hsame

/-- Where no name stands twice, the order of the entries does not matter. -/
theorem lookup?_perm {fields arranged : List (String × α)}
    (hnodup : (fields.map Prod.fst).Nodup) (hperm : arranged.Perm fields) (name : String) :
    lookup? name arranged = lookup? name fields := by
  cases hfound : lookup? name arranged with
  | some a => exact (lookup?_of_mem hnodup (hperm.mem_iff.mp (mem_of_lookup? hfound))).symm
  | none =>
      cases hfound' : lookup? name fields with
      | none => rfl
      | some a =>
          have hmem := hperm.mem_iff.mpr (mem_of_lookup? hfound')
          exact absurd (List.mem_map_of_mem hmem) (not_mem_of_lookup? hfound)

/-! ## 2. Order -/

theorem nodup_of_ascending {fields : List (String × α)}
    (h : fields.Pairwise fun f g => f.1 < g.1) : (fields.map Prod.fst).Nodup := by
  rw [List.nodup_iff_pairwise_ne, List.pairwise_map]
  refine h.imp fun hlt heq => ?_
  rw [heq] at hlt
  exact String.lt_irrefl _ hlt

theorem insertField_perm {k : String} (v : α) {fields : List (String × α)}
    (h : k ∉ fields.map Prod.fst) : (insertField k v fields).Perm ((k, v) :: fields) := by
  induction fields with
  | nil => exact .refl _
  | cons f rest ih =>
      obtain ⟨hne, hrest⟩ := not_or.mp (mt List.mem_cons.mpr h)
      unfold insertField
      rw [if_neg hne]
      split
      · exact .refl _
      · exact ((ih hrest).cons f).trans (.swap _ _ _)

theorem foldl_insertField_perm {fields acc : List (String × α)}
    (h : ((fields ++ acc).map Prod.fst).Nodup) :
    (fields.foldl (fun acc (k, v) => insertField k v acc) acc).Perm (fields ++ acc) := by
  induction fields generalizing acc with
  | nil => exact .refl _
  | cons f rest ih =>
      obtain ⟨hnew, hnodup⟩ := List.nodup_cons.mp h
      have hacc : f.1 ∉ acc.map Prod.fst := fun hmem =>
        hnew (List.map_append ▸ List.mem_append_right _ hmem)
      have hinsert := (insertField_perm f.2 hacc).append_left rest
      have hmoved : (rest ++ insertField f.1 f.2 acc).Perm (f :: (rest ++ acc)) :=
        hinsert.trans List.perm_middle
      exact (ih ((hmoved.map Prod.fst).nodup_iff.mpr h)).trans hmoved

/-- **Sorting a record without double names only moves its entries.** -/
theorem sortFields_perm {fields : List (String × α)}
    (h : (fields.map Prod.fst).Nodup) : (sortFields fields).Perm fields := by
  have hperm : (sortFields fields).Perm (fields ++ []) :=
    foldl_insertField_perm ((List.append_nil fields).symm ▸ h)
  rwa [List.append_nil] at hperm

theorem mem_insertField {k : String} {v : α} {fields : List (String × α)}
    {f : String × α} (h : f ∈ insertField k v fields) : f = (k, v) ∨ f ∈ fields := by
  induction fields with
  | nil => exact .inl (List.mem_singleton.mp h)
  | cons g rest ih =>
      unfold insertField at h
      split at h
      · exact (List.mem_cons.mp h).imp_right (List.mem_cons_of_mem g)
      · split at h
        · exact List.mem_cons.mp h
        · rcases List.mem_cons.mp h with heq | hrest
          · exact .inr (heq ▸ List.mem_cons_self)
          · exact (ih hrest).imp_right (List.mem_cons_of_mem g)

theorem mem_of_mem_sortFields {fields : List (String × α)} {f : String × α}
    (h : f ∈ sortFields fields) : f ∈ fields := by
  have hkept : ∀ f ∈ sortFields fields, f ∈ fields := by
    unfold sortFields
    refine List.foldlRecOn (motive := fun acc => ∀ f ∈ acc, f ∈ fields) fields _
      (fun f hf => absurd hf List.not_mem_nil) ?_
    intro acc hacc g hg f hf
    rcases mem_insertField hf with rfl | hold
    · exact hg
    · exact hacc f hold
  exact hkept f h

theorem insertField_ascending (k : String) (v : α) {fields : List (String × α)}
    (h : fields.Pairwise fun f g => f.1 < g.1) :
    (insertField k v fields).Pairwise fun f g => f.1 < g.1 := by
  induction fields with
  | nil => exact List.pairwise_singleton _ _
  | cons f rest ih =>
      obtain ⟨hfirst, hrest⟩ := List.pairwise_cons.mp h
      unfold insertField
      split
      · rename_i heq
        exact List.pairwise_cons.mpr ⟨fun g hg => heq ▸ hfirst g hg, hrest⟩
      · rename_i hne
        split
        · rename_i hlt
          refine List.pairwise_cons.mpr ⟨fun g hg => ?_, h⟩
          rcases List.mem_cons.mp hg with rfl | hg
          · exact hlt
          · exact String.lt_trans hlt (hfirst g hg)
        · rename_i hle
          refine List.pairwise_cons.mpr ⟨fun g hg => ?_, ih hrest⟩
          rcases mem_insertField hg with rfl | hg
          · exact String.not_le.mp fun hge =>
              hne (String.le_antisymm hge (String.not_lt.mp hle))
          · exact hfirst g hg

theorem sortFields_ascending (fields : List (String × α)) :
    (sortFields fields).Pairwise fun f g => f.1 < g.1 := by
  unfold sortFields
  refine List.foldlRecOn fields _ List.Pairwise.nil fun acc hacc f _ => ?_
  exact insertField_ascending f.1 f.2 hacc

/-- **Whatever order the entries of a sorted record are brought into, sorting brings them back.** -/
theorem sortFields_of_perm {fields arranged : List (String × α)}
    (h : fields.Pairwise fun f g => f.1 < g.1) (hperm : arranged.Perm fields) :
    sortFields arranged = fields := by
  have hnodup : (arranged.map Prod.fst).Nodup :=
    (hperm.map Prod.fst).nodup_iff.mpr (nodup_of_ascending h)
  refine List.Perm.eq_of_pairwise (fun f g _ _ hlt hgt => ?_) (sortFields_ascending arranged) h
    ((sortFields_perm hnodup).trans hperm)
  exact (String.lt_irrefl _ (String.lt_trans hlt hgt)).elim

theorem map_fst_normalFields (fields : List (String × Json)) :
    (normalFields fields).map Prod.fst = fields.map Prod.fst := by
  induction fields with
  | nil => rfl
  | cons f rest ih => exact congrArg (f.1 :: ·) ih

end LeadRouting.Json
