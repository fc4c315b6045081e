import LeadRouting.Json.Number
import LeadRouting.Proofs.Acceptance
import LeadRouting.Proofs.WholeNumbers

/-!
# Values that operators on numbers compare with

The findings take a value for a number if it is one or spells one. A comparison asks for a FINITE
one besides, which the findings do not: a text that spells an infinity, no number or one beyond the
range is not reported, and a test with it fails for every field. This file says that there are no
other values on which the two are of different minds.

* `Json.Held` -- the values that documents can hold: whole numbers of 64 bits, finite floats;
  `Json.Literal.held_of_value?` and `Plain.held_of_settle` say so of each word that is read;
* `Json.Excessive` -- a text whose number is not finite;
* `Json.isSome_number?_iff` -- what counts as a number in a comparison;
* `Operator.holds_of_number?_eq_none`, `Operator.holds_float` -- nothing compares with a value that
  counts as no number, and one that does is at least and at most itself;
* **`FieldTest.numeric_value_reported_iff`** -- findings and comparisons agree on a value exactly
  where it is not excessive, and a test that may be used with such a value is passed by some number.
-/

namespace LeadRouting

/-! ## 1. Values that documents hold -/

namespace Json

/-- A value that a document can hold. -/
def Held : Json → Prop
  | .int n => -2 ^ 63 ≤ n ∧ n < 2 ^ 64
  | .float x => Number.finite x = true
  | _ => True

/-- A decided scalar is held where the whole number in it is: a float that is not finite gives
    way. -/
theorem held_valueOf {s : Scalar} (h : ∀ n, s = .int n → -2 ^ 63 ≤ n ∧ n < 2 ^ 64) :
    (Document.valueOf s).Held := by
  cases s with
  | null | bool b | text t => trivial
  | int n => exact h n rfl
  | float x =>
      show (ofFloat x).Held
      unfold ofFloat
      split
      · assumption
      · trivial

theorem absorb_lt {n : Nat} (hn : n < significandBound) (ds : List Char) :
    (absorb n ds).1 < significandBound := by
  induction ds generalizing n with
  | nil => exact hn
  | cons c rest ih =>
      unfold absorb
      dsimp only
      split
      · exact ih ‹_›
      · exact hn

/-- **The number that a word spells is held.** -/
theorem Literal.held_of_value? {l : Literal} {s : Scalar} (h : l.value? = some s) :
    (Document.valueOf s).Held := by
  refine held_valueOf ?_
  rintro n rfl
  have hbound : (absorb 0 l.whole).1 < 2 ^ 64 := absorb_lt (by decide) l.whole
  have hleast : Int64.minValue.toInt = -2 ^ 63 := by decide
  unfold value? at h
  cases hscaled : l.scaled with
  | some part =>
      rw [hscaled] at h
      obtain ⟨_, -, hx⟩ := Option.map_eq_some_iff.mp h
      cases hx
  | none =>
      rw [hscaled] at h
      dsimp only [wholeNumber?] at h
      split at h
      · obtain ⟨_, -, hx⟩ := Option.map_eq_some_iff.mp h
        cases hx
      · split at h
        · cases h
          omega
        · split at h
          · cases h
          · rename_i hfits
            cases h
            rw [Bool.or_eq_true, decide_eq_true_eq, decide_eq_true_eq, hleast] at hfits
            omega

end Json

namespace Plain

theorem whole?_nonneg {raw : String} {n : Int}
    (hsign : (Number.splitSign raw.toList).1 ≠ some true) (h : whole? raw = some n) : 0 ≤ n := by
  unfold whole? at h
  dsimp only at h
  split at h
  · cases h
  · split at h
    · rename_i ds hsplit
      rw [hsplit] at hsign
      exact absurd rfl hsign
    · obtain ⟨m, hm, rfl⟩ := Option.map_eq_some_iff.mp h
      obtain ⟨k, -, hk⟩ := Option.bind_eq_some_iff.mp hm
      cases hk
      exact Int.natCast_nonneg k

/-- A whole number is one of 64 bits, without a sign or with one. -/
theorem settle_eq_int {raw : String} {n : Int} (h : settle raw = some (.int n)) :
    (unsigned? raw).or (signed? raw) = some n := by
  unfold settle at h
  split at h
  · cases h
  · split at h
    · cases h
    · split at h
      · rename_i m hm
        cases h
        exact hm
      · split at h
        · cases h
        · split at h
          · cases h
          · split at h <;> cases h

/-- **What an unquoted scalar stands for by itself is held.** -/
theorem held_of_settle {raw : String} {s : Scalar} (h : settle raw = some s) :
    (Document.valueOf s).Held := by
  refine Json.held_valueOf ?_
  rintro n rfl
  have hleast : Int64.minValue.toInt = -2 ^ 63 := by decide
  have hgreatest : Int64.maxValue.toInt = 2 ^ 63 - 1 := by decide
  have hsize : (UInt64.size : Int) = 2 ^ 64 := by decide
  rcases Option.or_eq_some_iff.mp (settle_eq_int h) with hunsigned | ⟨-, hsigned⟩
  · unfold unsigned? at hunsigned
    split at hunsigned
    · cases hunsigned
    · rename_i hsign
      obtain ⟨hread, hfits⟩ := Option.filter_eq_some_iff.mp hunsigned
      have hnonneg := whole?_nonneg hsign hread
      rw [decide_eq_true_eq] at hfits
      omega
  · obtain ⟨-, hfits⟩ := Option.filter_eq_some_iff.mp hsigned
    unfold fitsSigned at hfits
    rw [Bool.and_eq_true, decide_eq_true_eq, decide_eq_true_eq] at hfits
    omega

end Plain

/-! ## 2. Values that count as numbers -/

namespace Json

/-- A text that spells a number, which is not finite. -/
inductive Excessive : Json → Prop where
  | text (s : String) (x : Float) (hread : Number.read? (Text.trim s) = some x)
      (hx : Number.finite x = false) : Excessive (.text s)

theorem number?_int {n : Int} (h : Number.finite (Float.ofInt n) = true) :
    (Json.int n).number? = some (Float.ofInt n) := by
  show (some (Float.ofInt n)).filter Number.finite = _
  rw [Option.filter_some, if_pos h]

theorem number?_float {x : Float} (h : Number.finite x = true) :
    (Json.float x).number? = some x := by
  show (some x).filter Number.finite = _
  rw [Option.filter_some, if_pos h]

theorem number?_text_eq_some_iff {s : String} {x : Float} :
    (Json.text s).number? = some x ↔
      Number.read? (Text.trim s) = some x ∧ Number.finite x = true := by
  unfold number?
  exact Option.filter_eq_some_iff

theorem Excessive.numeric {v : Json} (h : v.Excessive) : v.Numeric := by
  obtain ⟨s, x, hread, -⟩ := h
  exact .text s x hread

theorem Excessive.number?_eq_none {v : Json} (h : v.Excessive) : v.number? = none := by
  obtain ⟨s, x, hread, hx⟩ := h
  refine Option.eq_none_iff_forall_ne_some.mpr fun y hy => ?_
  obtain ⟨hy, hfinite⟩ := number?_text_eq_some_iff.mp hy
  rw [hread] at hy
  cases hy
  rw [hx] at hfinite
  cases hfinite

/-- **What counts as a number in a comparison**: a number or a text that spells one, the excessive
    ones excepted. -/
theorem isSome_number?_iff {v : Json} (hv : v.Held) :
    v.number?.isSome = true ↔ v.Numeric ∧ ¬ v.Excessive := by
  constructor
  · intro h
    refine ⟨?_, fun hexcessive => ?_⟩
    · obtain ⟨x, hx⟩ := Option.isSome_iff_exists.mp h
      cases v with
      | list items | record fields => cases hx
      | scalar s =>
          cases s with
          | null | bool b => cases hx
          | int n => exact .int n
          | float y => exact .float y
          | text s => exact .text s x (number?_text_eq_some_iff.mp hx).1
    · rw [hexcessive.number?_eq_none] at h
      cases h
  · rintro ⟨hnumeric, hordinary⟩
    cases hnumeric with
    | int n =>
        obtain ⟨hlow, hhigh⟩ := hv
        rw [number?_int (Number.finite_ofInt (by omega))]
        rfl
    | float x =>
        rw [number?_float hv]
        rfl
    | text s x hread =>
        have hfinite : Number.finite x = true := by
          by_contra hinfinite
          exact hordinary (.text s x hread (Bool.eq_false_iff.mpr hinfinite))
        rw [number?_text_eq_some_iff.mpr ⟨hread, hfinite⟩]
        rfl

/-- What a value counts as in a comparison is finite. -/
theorem finite_of_number?_eq_some {v : Json} {x : Float} (h : v.number? = some x) :
    Number.finite x = true := by
  cases v with
  | list items | record fields => cases h
  | scalar s =>
      cases s with
      | null | bool b => cases h
      | int n | float y =>
          unfold number? at h
          exact (Option.filter_eq_some_iff.mp h).2
      | text s => exact (number?_text_eq_some_iff.mp h).2

end Json

/-! ## 3. Comparisons with them -/

theorem Number.place?_of_finite {x : Float} (h : finite x = true) : place? x = some (place x) := by
  unfold finite at h
  unfold place? notANumber
  rw [if_neg]
  simp at h ⊢
  omega

namespace Operator

theorem asksPresence_of_numeric {op : Operator} (hop : op.numeric = true) :
    op.asksPresence = false := by
  cases op with
  | present | absent => cases hop
  | equals | notEquals | among | notAmong | above | atLeast | below | atMost | contains | lacks =>
      rfl

theorem takes_iff_of_numeric {op : Operator} (hop : op.numeric = true) (v : Json) :
    op.Takes v ↔ v.Numeric := by
  cases op with
  | above | atLeast | below | atMost => exact Iff.rfl
  | equals | notEquals | among | notAmong | contains | lacks | present | absent => cases hop

/-- A null field counts as no number, so that an operator on numbers needs no case of its own for
    it. -/
theorem holds_of_numeric {op : Operator} (hop : op.numeric = true) (field : Option Json)
    (value : Json) : op.holds field value = field.any fun a => op.accepts a value := by
  cases op with
  | above | atLeast | below | atMost =>
      cases field with
      | none => rfl
      | some a =>
          cases a with
          | list items | record fields => rfl
          | scalar s =>
              cases s with
              | null => rfl
              | bool b | int n | float x | text s => simp only [holds, Option.any_some]
  | equals | notEquals | among | notAmong | contains | lacks | present | absent => cases hop

/-- An operator on numbers is a relation of the numbers that the field and the value count as. -/
theorem exists_compares {op : Operator} (hop : op.numeric = true) :
    ∃ rel, ∀ a value, op.accepts a value = Json.compares rel a value := by
  cases op with
  | above | atLeast | below | atMost => exact ⟨_, fun _ _ => rfl⟩
  | equals | notEquals | among | notAmong | contains | lacks | present | absent => cases hop

theorem holds_of_number?_eq_none {op : Operator} {value : Json} (hop : op.numeric = true)
    (hvalue : value.number? = none) (field : Option Json) : op.holds field value = false := by
  obtain ⟨rel, hrel⟩ := exists_compares hop
  have hnever : ∀ a, Json.compares rel a value = false := by
    intro a
    unfold Json.compares
    rw [hvalue]
    cases a.number? <;> rfl
  rw [holds_of_numeric hop]
  cases field with
  | none => rfl
  | some a => exact (hrel a value).trans (hnever a)

/-- **A number is at least and at most what counts as it.** -/
theorem holds_float {op : Operator} {value : Json} {x : Float} (hop : op = .atLeast ∨ op = .atMost)
    (hvalue : value.number? = some x) : op.holds (some (.float x)) value = true := by
  have hfinite := Json.finite_of_number?_eq_some hvalue
  have hle : Number.le x x = true := by
    have hplace := Number.place?_of_finite hfinite
    exact (Number.le_eq_true_iff x x).mpr ⟨_, _, hplace, hplace, Int.le_refl _⟩
  have hcompares : ∀ rel, Json.compares rel (.float x) value = rel x x := by
    intro rel
    unfold Json.compares
    rw [Json.number?_float hfinite, hvalue]
  rcases hop with rfl | rfl
  · exact (hcompares _).trans hle
  · exact (hcompares _).trans hle

end Operator

/-! ## 4. Findings and comparisons -/

namespace FieldTest

variable {t : FieldTest}

/-- The findings on the value of a test that compares numbers. -/
theorem valueFindings_eq_nil_iff (source : String) (i : Nat) (hop : t.operator.numeric = true) :
    t.valueFindings source i = [] ↔ t.value.Numeric := by
  have hunwarned : warned (t.valueFindings source i) = false := by
    have h := t.warned_eq source i
    unfold findings at h
    rw [warned_append, warned_findIf_error, Bool.false_or, Operator.asksPresence_of_numeric hop] at h
    exact h
  rw [eq_nil_iff_harmless, and_iff_left hunwarned, harmless_valueFindings_iff,
    Operator.takes_iff_of_numeric hop]

theorem passes_of_lookup? {fields : List (String × Json)} {a : Json}
    (ha : Json.lookup? t.key fields = some a) (h : t.operator.holds (some a) t.value = true) :
    t.passes fields = true := by
  unfold passes
  rw [ha, h]

/-- **Findings and comparisons agree, but for the excessive texts.** The value of a test that
    compares numbers is not reported exactly where it counts as a number in the comparison, unless
    it is an excessive text: that is not reported either, and no fields pass the test. A test in a
    set that may be used is passed by some number where it asks for at least or at most a value that
    is not such a text. -/
theorem numeric_value_reported_iff [Zones] (source : String) (i : Nat)
    (hop : t.operator.numeric = true) (hheld : t.value.Held) :
    ((t.valueFindings source i = [] ↔ t.value.number?.isSome = true) ↔ ¬ t.value.Excessive) ∧
    (t.value.number?.isSome = true → t.valueFindings source i = []) ∧
    (t.value.Excessive →
      t.valueFindings source i = [] ∧ ∀ fields, t.passes fields = false) ∧
    ∀ stage strict s s' c ts, RuleSet.validated stage strict s = .ok s' → s.Asks c →
      c.customFields = some ts → t ∈ ts → ¬ t.value.Excessive →
      t.operator = .atLeast ∨ t.operator = .atMost →
      ∃ x, Number.finite x = true ∧
        ∀ fields, Json.lookup? t.key fields = some (.float x) → t.passes fields = true := by
  rw [valueFindings_eq_nil_iff source i hop, Json.isSome_number?_iff hheld]
  refine ⟨⟨fun h hexcessive => (h.mp hexcessive.numeric).2 hexcessive, fun h => ?_⟩, And.left,
    fun h => ⟨h.numeric, fun fields => ?_⟩, ?_⟩
  · exact (and_iff_left h).symm
  · exact Operator.holds_of_number?_eq_none hop h.number?_eq_none _
  · intro stage strict s s' c ts hvalidated hasks hts ht hordinary hbound
    have hsound : t.Sound := (RuleSet.sound_of_validated hvalidated hasks).customFields ts hts t ht
    have hnumeric : t.value.Numeric := (Operator.takes_iff_of_numeric hop t.value).mp hsound.value
    have hcounts := (Json.isSome_number?_iff hheld).mpr ⟨hnumeric, hordinary⟩
    obtain ⟨x, hx⟩ := Option.isSome_iff_exists.mp hcounts
    exact ⟨x, Json.finite_of_number?_eq_some hx, fun fields hfield =>
      passes_of_lookup? hfield (Operator.holds_float hbound hx)⟩

end FieldTest

/-! ## 5. Tests of a budget -/

namespace Example

/-- A test of the budget. -/
def budgetTest (value : String) : FieldTest := ⟨"budget", .atLeast, .text value⟩

/-- The conditions with such a test and nothing else. -/
def budgetConditions (value : String) : Conditions :=
  { Conditions.none with customFields := some [budgetTest value] }

end Example

namespace FieldTest

open Example

/-- A set that asks for a thousand may be used, and some budget is enough for it. -/
theorem thousand_reported_iff :
    (budgetTest " 1e3 ").operator.numeric = true ∧ (budgetTest " 1e3 ").value.Held ∧
      ((budgetTest " 1e3 ").valueFindings "east" 0 = [] ↔
        (budgetTest " 1e3 ").value.number?.isSome = true) ∧
      ∃ x, Number.finite x = true ∧ ∀ fields,
        Json.lookup? "budget" fields = some (.float x) → (budgetTest " 1e3 ").passes fields = true := by
  have hordinary : ¬ (budgetTest " 1e3 ").value.Excessive := by
    intro h
    have hcounts : (budgetTest " 1e3 ").value.number?.isSome = true := by rfl
    rw [h.number?_eq_none] at hcounts
    cases hcounts
  have hvalidated : (asking (budgetConditions " 1e3 ")).validated "rules.yaml" true =
      .ok (asking (budgetConditions " 1e3 ")) := rfl
  obtain ⟨hagree, -, -, hbound⟩ :=
    numeric_value_reported_iff (t := budgetTest " 1e3 ") "east" 0 rfl trivial
  exact ⟨rfl, trivial, hagree.mpr hordinary,
    hbound "rules.yaml" true _ _ _ _ hvalidated (asks_asking _) rfl List.mem_cons_self
      hordinary (.inl rfl)⟩

/-- **A set that asks for an infinite budget may be used as well**, and no budget is enough. -/
theorem infinite_value_unreported :
    (asking (budgetConditions "inf")).validated "rules.yaml" true =
        .ok (asking (budgetConditions "inf")) ∧
      ¬ ((budgetTest "inf").valueFindings "east" 0 = [] ↔
        (budgetTest "inf").value.number?.isSome = true) ∧
      ∀ fields, (budgetTest "inf").passes fields = false := by
  have hop : (budgetTest "inf").operator.numeric = true := rfl
  have hcounts : (budgetTest "inf").value.number? = none := by rfl
  refine ⟨rfl, ?_, fun fields => ?_⟩
  · rw [hcounts]
    intro h
    cases h.mp (by rfl)
  · exact Operator.holds_of_number?_eq_none hop hcounts _

end FieldTest

end LeadRouting
