import LeadRouting.Proofs.MissingData
import LeadRouting.Proofs.NumericOperands

/-!
# Operators that ask the opposite

The twelve operators are six pairs. The second of a pair is not the negation of the first: both
give answers to one question, and where **a field and a value cannot be compared there is no answer
and both fail**. This file says which questions have an answer.

* `Operator.Answers op other field value answer` -- the two operators give the answer, if there is
  one; `Answers.exactlyOne` and `Answers.neither` are what follows;
* `Number.lt_of_finite`, `Number.le_of_finite`, `Number.same_of_finite` -- finite numbers compare as
  their places do, and so one of them is always below the other or at it;
* `Json.Searchable` -- what can be asked for what it contains;
* `Operator.Paired a value` -- what the pairs owe to a field that is there and not null;
* **`Operator.holds_paired`** -- they owe it to every such field. Without a field or with a null one
  the ten operators on values fail, and the other two go by whether the field is there.
-/

namespace LeadRouting

/-! ## 1. Two answers to one question -/

namespace Operator

/-- One of the two operators accepts the field, and the other one does not. -/
def ExactlyOne (op other : Operator) (field : Option Json) (value : Json) : Prop :=
  op.holds field value ≠ other.holds field value

/-- Neither of the two operators accepts the field. -/
def Neither (op other : Operator) (field : Option Json) (value : Json) : Prop :=
  op.holds field value = false ∧ other.holds field value = false

/-- **The operators give the two answers to one question**, which may have none. -/
structure Answers (op other : Operator) (field : Option Json) (value : Json)
    (answer : Option Bool) : Prop where
  holds_iff : op.holds field value = true ↔ answer = some true
  other_holds_iff : other.holds field value = true ↔ answer = some false

section Answers

variable {op other : Operator} {field : Option Json} {value : Json} {answer : Option Bool}

theorem Answers.exactlyOne {b : Bool} (h : Answers op other field value (some b)) :
    ExactlyOne op other field value := by
  obtain ⟨hop, hother⟩ := h
  unfold ExactlyOne
  cases b with
  | true =>
      have hfails : other.holds field value = false :=
        Bool.eq_false_iff.mpr fun hholds => nomatch hother.mp hholds
      rw [hop.mpr rfl, hfails]
      exact Bool.noConfusion
  | false =>
      have hfails : op.holds field value = false :=
        Bool.eq_false_iff.mpr fun hholds => nomatch hop.mp hholds
      rw [hfails, hother.mpr rfl]
      exact Bool.noConfusion

theorem Answers.neither (h : Answers op other field value none) : Neither op other field value := by
  refine ⟨?_, ?_⟩
  · exact Bool.eq_false_iff.mpr fun hholds => nomatch h.holds_iff.mp hholds
  · exact Bool.eq_false_iff.mpr fun hholds => nomatch h.other_holds_iff.mp hholds

end Answers

/-- An operator looks at a field that is there and not null together with the value. -/
theorem holds_of_ne_null {a : Json} (ha : a ≠ .null) (op : Operator) (value : Json) :
    op.holds (some a) value = op.accepts a value := by
  cases op with
  | present | absent => rfl
  | equals | notEquals | among | notAmong | above | atLeast | below | atMost | contains | lacks =>
      cases a with
      | list items | record fields => rfl
      | scalar s =>
          cases s with
          | null => exact absurd rfl ha
          | bool b | int n | float x | text s => rfl

/-- No operator on values accepts a null field. -/
theorem holds_null {op : Operator} (h : op.asksPresence = false) (value : Json) :
    op.holds (some .null) value = false := by
  cases op with
  | present | absent => cases h
  | equals | notEquals | among | notAmong | above | atLeast | below | atMost | contains | lacks =>
      rfl

end Operator

/-! ## 2. Numbers -/

namespace Number

variable {x y : Float}

theorem lt_of_finite (hx : finite x = true) (hy : finite y = true) :
    lt x y = decide (place x < place y) := by
  unfold lt
  rw [place?_of_finite hx, place?_of_finite hy]

theorem le_of_finite (hx : finite x = true) (hy : finite y = true) :
    le x y = decide (place x ≤ place y) := by
  unfold le
  rw [place?_of_finite hx, place?_of_finite hy]

theorem same_of_finite (hx : finite x = true) (hy : finite y = true) :
    same x y = decide (place x = place y) := by
  unfold same
  rw [place?_of_finite hx, place?_of_finite hy]

/-- **Of two finite numbers one is at most the other, or above it.** -/
theorem le_eq_not_lt (hx : finite x = true) (hy : finite y = true) : le x y = !lt y x := by
  rw [le_of_finite hx hy, lt_of_finite hy hx, ← decide_not]
  exact decide_eq_decide.mpr Int.not_lt.symm

end Number

namespace Json

variable {a value : Json}

/-- The numbers that two values count as, if both do. -/
def numbers? (a value : Json) : Option (Float × Float) :=
  a.number?.bind fun x => value.number?.map fun y => (x, y)

theorem numbers?_eq_some_iff {x y : Float} :
    numbers? a value = some (x, y) ↔ a.number? = some x ∧ value.number? = some y := by
  unfold numbers?
  cases a.number? <;> cases value.number? <;> simp

theorem ne_null_of_number? {x : Float} (h : a.number? = some x) : a ≠ .null := by
  rintro rfl
  cases h

theorem compares_of_numbers {x y : Float} (hx : a.number? = some x) (hy : value.number? = some y)
    (rel : Float → Float → Bool) : compares rel a value = rel x y := by
  unfold compares
  rw [hx, hy]

theorem compares_eq (rel : Float → Float → Bool) (a value : Json) :
    compares rel a value = (numbers? a value).any fun (x, y) => rel x y := by
  unfold compares numbers?
  cases a.number? <;> cases value.number? <;> rfl

end Json

namespace Operator

variable {a value : Json}

/-- **Two operators on numbers answer whether a relation holds**, if the first asks for it and the
    second for its opposite. -/
theorem answers_of_compares {op other : Operator} {rel opposite : Float → Float → Bool}
    (ha : a ≠ .null) (hop : op.accepts a value = Json.compares rel a value)
    (hother : other.accepts a value = Json.compares opposite a value)
    (hopposite : ∀ x y, Number.finite x = true → Number.finite y = true →
      opposite x y = !rel x y) :
    Answers op other (some a) value ((Json.numbers? a value).map fun (x, y) => rel x y) := by
  refine ⟨?_, ?_⟩
  · rw [holds_of_ne_null ha, hop, Json.compares_eq]
    cases Json.numbers? a value <;> simp
  · rw [holds_of_ne_null ha, hother, Json.compares_eq]
    cases hnumbers : Json.numbers? a value with
    | none => simp
    | some p =>
        obtain ⟨hx, hy⟩ := Json.numbers?_eq_some_iff.mp hnumbers
        have hrel := hopposite p.1 p.2 (Json.finite_of_number?_eq_some hx)
          (Json.finite_of_number?_eq_some hy)
        simp [hrel]

theorem above_answers (ha : a ≠ .null) (value : Json) :
    Answers .above .atMost (some a) value
      ((Json.numbers? a value).map fun (x, y) => Number.lt y x) :=
  answers_of_compares ha rfl rfl fun _ _ hx hy => Number.le_eq_not_lt hx hy

theorem below_answers (ha : a ≠ .null) (value : Json) :
    Answers .below .atLeast (some a) value
      ((Json.numbers? a value).map fun (x, y) => Number.lt x y) :=
  answers_of_compares ha rfl rfl fun _ _ hx hy => Number.le_eq_not_lt hy hx

/-! Two values that count as numbers compare as the places of these do. -/

section Numbers

variable {x y : Float} (hx : a.number? = some x) (hy : value.number? = some y)
include hx hy

theorem compares_holds_iff {op : Operator} {rel : Float → Float → Bool} {p : Prop} [Decidable p]
    (hop : op.accepts a value = Json.compares rel a value) (hrel : rel x y = decide p) :
    op.holds (some a) value = true ↔ p := by
  rw [holds_of_ne_null (Json.ne_null_of_number? hx), hop, Json.compares_of_numbers hx hy, hrel,
    decide_eq_true_eq]

theorem above_holds_iff :
    holds .above (some a) value = true ↔ Number.place y < Number.place x :=
  compares_holds_iff hx hy rfl (Number.lt_of_finite (Json.finite_of_number?_eq_some hy)
    (Json.finite_of_number?_eq_some hx))

theorem atLeast_holds_iff :
    holds .atLeast (some a) value = true ↔ Number.place y ≤ Number.place x :=
  compares_holds_iff hx hy rfl (Number.le_of_finite (Json.finite_of_number?_eq_some hy)
    (Json.finite_of_number?_eq_some hx))

theorem below_holds_iff :
    holds .below (some a) value = true ↔ Number.place x < Number.place y :=
  compares_holds_iff hx hy rfl (Number.lt_of_finite (Json.finite_of_number?_eq_some hx)
    (Json.finite_of_number?_eq_some hy))

theorem atMost_holds_iff :
    holds .atMost (some a) value = true ↔ Number.place x ≤ Number.place y :=
  compares_holds_iff hx hy rfl (Number.le_of_finite (Json.finite_of_number?_eq_some hx)
    (Json.finite_of_number?_eq_some hy))

/-- At least is above or the same number. -/
theorem atLeast_holds_iff_above_or_same : holds .atLeast (some a) value = true ↔
    holds .above (some a) value = true ∨ Number.same x y = true := by
  rw [atLeast_holds_iff hx hy, above_holds_iff hx hy,
    Number.same_of_finite (Json.finite_of_number?_eq_some hx) (Json.finite_of_number?_eq_some hy),
    decide_eq_true_eq]
  omega

end Numbers

end Operator

/-! ## 3. Equality, lists and contents -/

namespace Json

/-- **A value that can be asked whether it contains another one**: a list, or a text that is asked
    for a text, a number or a truth value. -/
inductive Searchable : Json → Json → Prop where
  | list (items : List Json) (value : Json) : Searchable (.list items) value
  | text (s t : String) : Searchable (.text s) (.text t)
  | int (s : String) (n : Int) : Searchable (.text s) (.int n)
  | float (s : String) (x : Float) : Searchable (.text s) (.float x)
  | bool (s : String) (b : Bool) : Searchable (.text s) (.bool b)

theorem isSome_scalarText?_iff {s : String} {value : Json} :
    value.scalarText?.isSome = true ↔ Searchable (.text s) value := by
  constructor
  · intro h
    cases value with
    | list items | record fields => cases h
    | scalar v =>
        cases v with
        | null => cases h
        | bool b => exact .bool s b
        | int n => exact .int s n
        | float x => exact .float s x
        | text t => exact .text s t
  · intro h
    cases h <;> rfl

/-- **What can be searched is what there is an answer for.** -/
theorem isSome_holds?_iff {a value : Json} :
    (holds? a value).isSome = true ↔ Searchable a value := by
  cases a with
  | list items => exact iff_of_true rfl (.list items value)
  | record fields => exact iff_of_false Bool.noConfusion nofun
  | scalar s =>
      cases s with
      | null | bool b | int n | float x => exact iff_of_false Bool.noConfusion nofun
      | text s =>
          unfold holds?
          rw [Option.isSome_map]
          exact isSome_scalarText?_iff

theorem memberOf?_eq_none {a value : Json} (h : ∀ items, value ≠ .list items) :
    memberOf? a value = none := by
  cases value with
  | list items => exact absurd rfl (h items)
  | scalar s | record fields => rfl

end Json

namespace Operator

variable {a value : Json}

theorem equals_answers (ha : a ≠ .null) :
    Answers .equals .notEquals (some a) value (some (Json.looselyEqual a value)) := by
  refine ⟨?_, ?_⟩
  · rw [holds_of_ne_null ha, Option.some_inj]
    rfl
  · rw [holds_of_ne_null ha, Option.some_inj]
    exact Iff.of_eq (Bool.not_eq_true' _)

theorem among_answers (ha : a ≠ .null) (value : Json) :
    Answers .among .notAmong (some a) value (Json.memberOf? a value) := by
  refine ⟨?_, ?_⟩
  · rw [holds_of_ne_null ha]
    exact decide_eq_true_iff
  · rw [holds_of_ne_null ha]
    exact decide_eq_true_iff

theorem contains_answers (ha : a ≠ .null) (value : Json) :
    Answers .contains .lacks (some a) value (Json.holds? a value) := by
  refine ⟨?_, ?_⟩
  · rw [holds_of_ne_null ha]
    exact decide_eq_true_iff
  · rw [holds_of_ne_null ha]
    exact decide_eq_true_iff

/-- A field is among the entries of a list where it equals one of them. -/
theorem among_holds_iff (ha : a ≠ .null) {items : List Json} :
    holds .among (some a) (.list items) = true ↔
      ∃ x ∈ items, holds .equals (some a) x = true := by
  rw [(among_answers ha _).holds_iff]
  unfold Json.memberOf?
  rw [Option.some_inj, List.any_eq_true]
  simp only [(equals_answers ha).holds_iff, Option.some_inj]

/-! ## 4. The pairs -/

/-- **What the operators owe to a field that is there and not null**: of every pair exactly one
    accepts it, or neither where the question has no answer. -/
structure Paired (a value : Json) : Prop where
  equality : ExactlyOne .equals .notEquals (some a) value
  listed : ∀ items, value = .list items → ExactlyOne .among .notAmong (some a) value ∧
    (holds .among (some a) value = true ↔ ∃ x ∈ items, holds .equals (some a) x = true)
  unlisted : (∀ items, value ≠ .list items) → Neither .among .notAmong (some a) value
  ordered : ∀ x y, a.number? = some x → value.number? = some y →
    ExactlyOne .above .atMost (some a) value ∧ ExactlyOne .below .atLeast (some a) value ∧
      (holds .atLeast (some a) value = true ↔
        holds .above (some a) value = true ∨ Number.same x y = true)
  unordered : a.number? = none ∨ value.number? = none →
    Neither .above .atMost (some a) value ∧ Neither .below .atLeast (some a) value
  searched : Json.Searchable a value → ExactlyOne .contains .lacks (some a) value
  unsearched : ¬ Json.Searchable a value → Neither .contains .lacks (some a) value

theorem paired_of_ne_null (ha : a ≠ .null) (value : Json) : Paired a value where
  equality := (equals_answers ha).exactlyOne
  listed := by
    rintro items rfl
    exact ⟨(among_answers ha _).exactlyOne, among_holds_iff ha⟩
  unlisted := fun h => by
    have hanswers := among_answers ha value
    rw [Json.memberOf?_eq_none h] at hanswers
    exact hanswers.neither
  ordered := fun x y hx hy => by
    have hnumbers := Json.numbers?_eq_some_iff.mpr ⟨hx, hy⟩
    have habove := above_answers ha value
    have hbelow := below_answers ha value
    rw [hnumbers] at habove hbelow
    exact ⟨habove.exactlyOne, hbelow.exactlyOne, atLeast_holds_iff_above_or_same hx hy⟩
  unordered := fun h => by
    have hnumbers : Json.numbers? a value = none := by
      unfold Json.numbers?
      rcases h with h | h
      · rw [h]
        rfl
      · rw [h]
        cases a.number? <;> rfl
    have habove := above_answers ha value
    have hbelow := below_answers ha value
    rw [hnumbers] at habove hbelow
    exact ⟨habove.neither, hbelow.neither⟩
  searched := fun h => by
    have hanswers := contains_answers ha value
    obtain ⟨b, hb⟩ := Option.isSome_iff_exists.mp (Json.isSome_holds?_iff.mpr h)
    rw [hb] at hanswers
    exact hanswers.exactlyOne
  unsearched := fun h => by
    have hanswers := contains_answers ha value
    have hnone : Json.holds? a value = none :=
      Option.not_isSome_iff_eq_none.mp fun hsome => h (Json.isSome_holds?_iff.mp hsome)
    rw [hnone] at hanswers
    exact hanswers.neither

/-- **The operators come in pairs that never contradict each other.** A field that is there and not
    null has what its pairs owe to it. No operator on values accepts a field that is missing or
    null, and whether a field is there is answered by the field alone. -/
theorem holds_paired (value : Json) :
    (∀ a, a ≠ .null → Paired a value) ∧
    (∀ (op : Operator) (field : Option Json), op.asksPresence = false →
      field = none ∨ field = some .null → op.holds field value = false) ∧
    ∀ field, ExactlyOne .present .absent field value ∧
      (holds .present field value = true ↔ field.isSome = true) := by
  refine ⟨fun a ha => paired_of_ne_null ha value, ?_, fun field => ?_⟩
  · rintro op field hop (rfl | rfl)
    · have hne : op ≠ .absent := by
        rintro rfl
        cases hop
      exact holds_none hne value
    · exact holds_null hop value
  · cases field with
    | none => exact ⟨Bool.noConfusion, Iff.rfl⟩
    | some a => exact ⟨Bool.noConfusion, Iff.rfl⟩

/-- A text that spells a number is in a list with that number, and neither above the list nor at
    most it. A null field is neither in the list nor not in it. -/
theorem holds_paired_seventy :
    let seventy : Json := .text " 70 "
    let listed : Json := .list [.int 65, .float 70.0]
    seventy ≠ .null ∧ Paired seventy listed ∧
      holds .among (some seventy) listed = true ∧ holds .notAmong (some seventy) listed = false ∧
      Neither .above .atMost (some seventy) listed ∧
      holds .among (some .null) listed = false ∧ holds .notAmong (some .null) listed = false := by
  intro seventy listed
  have hne : Json.text " 70 " ≠ .null := nofun
  have hamong : holds .among (some seventy) listed = true := by rfl
  obtain ⟨hthere, hmissing, -⟩ := holds_paired listed
  have hpaired := hthere seventy hne
  have hnot : holds .notAmong (some seventy) listed = false := by
    have hone := (hpaired.listed _ rfl).1
    unfold ExactlyOne at hone
    rw [hamong] at hone
    exact Bool.eq_false_iff.mpr (Ne.symm hone)
  exact ⟨hne, hpaired, hamong, hnot, (hpaired.unordered (.inr rfl)).1,
    hmissing .among _ rfl (.inr rfl), hmissing .notAmong _ rfl (.inr rfl)⟩

end Operator

end LeadRouting
