import LeadRouting.Proofs.Contradictions
import LeadRouting.Proofs.Opposites

/-!
# Equal numbers and equal numerals

Where a field and a value count as numbers, equality and order ought to say the same: a field
equals a value where it is at least and at most that value. It is so as long as one of the two IS a
number. Of two texts that spell numbers equality asks something else, whether they are alike, while
order compares the numbers. This file says when the two disagree.

* `Numeral.read?_smallLetters`, `Numeral.ascii_of_read?` -- a numeral is a text of ASCII, and it is
  read without regard to the case of its letters;
* `Json.number?_eq_of_alike` -- **texts that are alike spell the same number**;
* `Json.Respelled a value` -- two texts that are not alike and spell the same number;
* **`Operator.equality_follows_order_iff`** -- equality and order agree on values that count as
  numbers exactly where these are not respelled. What is equal is always at least and at most as
  much, and a respelled number is both without being equal.
-/

namespace LeadRouting

open Text

/-! ## 1. The case of the letters of a numeral -/

namespace Number

theorem isDigit_comp_toLower : Char.isDigit ∘ Char.toLower = Char.isDigit :=
  funext fun c => apply_toLower Char.isDigit (by decide) c

/-- The last digit is nine. -/
theorem val_le_of_isDigit {c : Char} (h : c.isDigit = true) : c.val ≤ 57 :=
  of_decide_eq_true (Bool.and_eq_true_iff.mp h).2

theorem toLower_of_isDigit {c : Char} (h : c.isDigit = true) : c.toLower = c := by
  unfold Char.toLower
  rw [dif_neg]
  intro hcapital
  have hfirst : (65 : UInt32) ≤ c.val := hcapital.1
  exact absurd (UInt32.le_trans hfirst (val_le_of_isDigit h)) (by decide)

theorem smallLetters_of_isDigit {ds : List Char} (h : ∀ c ∈ ds, c.isDigit = true) :
    smallLetters ds = ds := by
  unfold smallLetters
  exact (List.map_congr_left fun c hc => toLower_of_isDigit (h c hc)).trans ds.map_id

theorem takeWhile_isDigit_smallLetters (cs : List Char) :
    (smallLetters cs).takeWhile Char.isDigit = cs.takeWhile Char.isDigit := by
  unfold smallLetters
  rw [List.takeWhile_map, isDigit_comp_toLower]
  exact smallLetters_of_isDigit fun c hc => List.mem_takeWhile_imp hc

theorem dropWhile_isDigit_smallLetters (cs : List Char) :
    (smallLetters cs).dropWhile Char.isDigit = smallLetters (cs.dropWhile Char.isDigit) := by
  unfold smallLetters
  rw [List.dropWhile_map, isDigit_comp_toLower]

theorem splitSign_of_ne {c : Char} (hplus : c ≠ '+') (hminus : c ≠ '-') (rest : List Char) :
    splitSign (c :: rest) = (none, c :: rest) := by
  unfold splitSign
  split
  · rename_i heq
    exact absurd (List.cons.inj heq).1 hplus
  · rename_i heq
    exact absurd (List.cons.inj heq).1 hminus
  · rfl

theorem splitSign_smallLetters (cs : List Char) :
    splitSign (smallLetters cs) = ((splitSign cs).1, smallLetters (splitSign cs).2) := by
  cases cs with
  | nil => rfl
  | cons c rest =>
      by_cases hplus : c = '+'
      · subst hplus
        rfl
      by_cases hminus : c = '-'
      · subst hminus
        rfl
      have hplus' : c.toLower ≠ '+' :=
        fun h => hplus (Eq.mp (apply_toLower (· = '+') (by decide) c) h)
      have hminus' : c.toLower ≠ '-' :=
        fun h => hminus (Eq.mp (apply_toLower (· = '-') (by decide) c) h)
      rw [splitSign_of_ne hplus hminus]
      exact splitSign_of_ne hplus' hminus' (smallLetters rest)

theorem readInteger?_smallLetters (cs : List Char) :
    readInteger? (smallLetters cs) = readInteger? cs := by
  unfold readInteger?
  rw [splitSign_smallLetters]
  dsimp only
  generalize (splitSign cs).2 = ds
  have hempty : (smallLetters ds).isEmpty = ds.isEmpty := List.isEmpty_map
  have hall : (smallLetters ds).all Char.isDigit = ds.all Char.isDigit := by
    unfold smallLetters
    rw [List.all_map, isDigit_comp_toLower]
  rw [hempty, hall]
  by_cases hdigits : ds.all Char.isDigit = true
  · rw [smallLetters_of_isDigit (List.all_eq_true.mp hdigits)]
  · rw [Bool.not_eq_true] at hdigits
    rw [hdigits, Bool.not_false, Bool.or_true, if_pos rfl, if_pos rfl]

theorem readExponent?_smallLetters (cs : List Char) :
    readExponent? (smallLetters cs) = readExponent? cs := by
  cases cs with
  | nil => rfl
  | cons c rest =>
      have hmark : (c.toLower = 'e' || c.toLower = 'E') = (c = 'e' || c = 'E') :=
        apply_toLower (fun c => c = 'e' || c = 'E') (by decide) c
      show (if c.toLower = 'e' || c.toLower = 'E' then readInteger? (smallLetters rest) else none) =
        if c = 'e' || c = 'E' then readInteger? rest else none
      rw [hmark, readInteger?_smallLetters]

/-- The digits behind a leading point, if there is one, and what follows them. -/
def splitPart : List Char → List Char × List Char
  | '.' :: r => (r.takeWhile Char.isDigit, r.dropWhile Char.isDigit)
  | r => ([], r)

theorem splitPart_of_ne {c : Char} (h : c ≠ '.') (rest : List Char) :
    splitPart (c :: rest) = ([], c :: rest) := by
  unfold splitPart
  split
  · rename_i heq
    exact absurd (List.cons.inj heq).1 h
  · rfl

theorem splitPart_smallLetters (cs : List Char) :
    splitPart (smallLetters cs) = ((splitPart cs).1, smallLetters (splitPart cs).2) := by
  cases cs with
  | nil => rfl
  | cons c rest =>
      by_cases hpoint : c = '.'
      · subst hpoint
        exact Prod.ext (takeWhile_isDigit_smallLetters rest) (dropWhile_isDigit_smallLetters rest)
      · have hpoint' : c.toLower ≠ '.' :=
          fun h => hpoint (Eq.mp (apply_toLower (· = '.') (by decide) c) h)
        rw [splitPart_of_ne hpoint]
        exact splitPart_of_ne hpoint' (smallLetters rest)

/-- A numeral without a sign: digits, the part behind a point, and an exponent. -/
theorem readUnsigned?_eq (cs : List Char) :
    readUnsigned? cs =
      let whole := cs.takeWhile Char.isDigit
      let part := (splitPart (cs.dropWhile Char.isDigit)).1
      if whole.isEmpty && part.isEmpty then none
      else (readExponent? (splitPart (cs.dropWhile Char.isDigit)).2).map fun e =>
        (ofDigits (whole ++ part), e - (part.length : Int)) := rfl

theorem readUnsigned?_smallLetters (cs : List Char) :
    readUnsigned? (smallLetters cs) = readUnsigned? cs := by
  rw [readUnsigned?_eq, readUnsigned?_eq, takeWhile_isDigit_smallLetters,
    dropWhile_isDigit_smallLetters, splitPart_smallLetters, readExponent?_smallLetters]

/-- **A numeral is read without regard to the case of its letters.** -/
theorem Numeral.read?_smallLetters (cs : List Char) :
    read? (smallLetters cs) = read? cs := by
  have hlower : ∀ ds : List Char, (smallLetters ds).map Char.toLower = ds.map Char.toLower := by
    intro ds
    unfold smallLetters
    rw [List.map_map]
    exact List.map_congr_left fun c _ => apply_toLower Char.toLower (by decide) c
  unfold read?
  rw [splitSign_smallLetters]
  dsimp only
  rw [hlower, readUnsigned?_smallLetters]

/-! A numeral is a text of ASCII. -/

theorem ascii_of_isDigit {c : Char} (h : c.isDigit = true) : c.toNat < 0x80 := by
  have hcode : c.toNat ≤ 57 := UInt32.le_iff_toNat_le.mp (val_le_of_isDigit h)
  omega

theorem ascii_of_takeWhile {cs : List Char} (h : ∀ c ∈ cs.dropWhile Char.isDigit, c.toNat < 0x80) :
    ∀ c ∈ cs, c.toNat < 0x80 := by
  intro c hc
  have hsplit : cs.takeWhile Char.isDigit ++ cs.dropWhile Char.isDigit = cs :=
    List.takeWhile_append_dropWhile
  rw [← hsplit] at hc
  rcases List.mem_append.mp hc with hc | hc
  · exact ascii_of_isDigit (List.mem_takeWhile_imp hc)
  · exact h c hc

theorem ascii_of_splitSign {cs : List Char} (h : ∀ c ∈ (splitSign cs).2, c.toNat < 0x80) :
    ∀ c ∈ cs, c.toNat < 0x80 := by
  unfold splitSign at h
  split at h
  · exact List.forall_mem_cons.mpr ⟨by decide, h⟩
  · exact List.forall_mem_cons.mpr ⟨by decide, h⟩
  · exact h

theorem ascii_of_splitPart {cs : List Char} (h : ∀ c ∈ (splitPart cs).2, c.toNat < 0x80) :
    ∀ c ∈ cs, c.toNat < 0x80 := by
  unfold splitPart at h
  split at h
  · exact List.forall_mem_cons.mpr ⟨by decide, ascii_of_takeWhile h⟩
  · exact h

theorem ascii_of_readInteger? {cs : List Char} {n : Int} (h : readInteger? cs = some n) :
    ∀ c ∈ cs, c.toNat < 0x80 := by
  unfold readInteger? at h
  dsimp only at h
  split at h
  · cases h
  · rename_i hdigits
    rw [Bool.or_eq_true, not_or, Bool.not_eq_true, Bool.not_eq_true, Bool.not_eq_false'] at hdigits
    exact ascii_of_splitSign fun c hc => ascii_of_isDigit (List.all_eq_true.mp hdigits.2 c hc)

theorem ascii_of_readExponent? {cs : List Char} {n : Int} (h : readExponent? cs = some n) :
    ∀ c ∈ cs, c.toNat < 0x80 := by
  cases cs with
  | nil => exact fun c hc => absurd hc List.not_mem_nil
  | cons c rest =>
      change (if c = 'e' || c = 'E' then readInteger? rest else none) = some n at h
      split at h
      · rename_i hmark
        refine List.forall_mem_cons.mpr ⟨?_, ascii_of_readInteger? h⟩
        rcases Bool.or_eq_true_iff.mp hmark with hc | hc
        · rw [of_decide_eq_true hc]
          decide
        · rw [of_decide_eq_true hc]
          decide
      · cases h

theorem ascii_of_readUnsigned? {cs : List Char} {p : Nat × Int} (h : readUnsigned? cs = some p) :
    ∀ c ∈ cs, c.toNat < 0x80 := by
  rw [readUnsigned?_eq] at h
  dsimp only at h
  split at h
  · cases h
  · obtain ⟨e, he, -⟩ := Option.map_eq_some_iff.mp h
    exact ascii_of_takeWhile (ascii_of_splitPart (ascii_of_readExponent? he))

/-- What is a word of ASCII in small letters is of ASCII. -/
theorem ascii_of_map_toLower {cs : List Char} {w : String}
    (hw : (w.toList.all fun c => decide (c.toNat < 0x80)) = true)
    (h : String.ofList (cs.map Char.toLower) = w) : ∀ c ∈ cs, c.toNat < 0x80 := by
  subst h
  intro c hc
  have hsmall : c.toLower.toNat < 0x80 := by
    rw [String.toList_ofList] at hw
    exact of_decide_eq_true (List.all_eq_true.mp hw _ (List.mem_map_of_mem hc))
  have hcase : (c.toLower.toNat < 0x80) = (c.toNat < 0x80) :=
    apply_toLower (·.toNat < 0x80) (by decide) c
  rwa [hcase] at hsmall

/-- **A numeral is a text of ASCII.** -/
theorem Numeral.ascii_of_read? {cs : List Char} {n : Numeral} (h : read? cs = some n) :
    ∀ c ∈ cs, c.toNat < 0x80 := by
  unfold read? at h
  dsimp only at h
  refine ascii_of_splitSign ?_
  split at h
  · rename_i hword
    rcases Bool.or_eq_true_iff.mp hword with hword | hword
    · exact ascii_of_map_toLower rfl (of_decide_eq_true hword)
    · exact ascii_of_map_toLower rfl (of_decide_eq_true hword)
  · split at h
    · rename_i hword
      exact ascii_of_map_toLower rfl hword
    · obtain ⟨p, hp, -⟩ := Option.map_eq_some_iff.mp h
      exact ascii_of_readUnsigned? hp

/-- **Numerals of the same lower case are read alike.** -/
theorem Numeral.read?_eq_of_lowerChars {cs ds : List Char} {m n : Numeral} (hm : read? cs = some m)
    (hn : read? ds = some n) (h : lowerChars cs = lowerChars ds) : m = n := by
  have hsmall : smallLetters cs = smallLetters ds := by
    rw [← lowerFrom_of_ascii [] (ascii_of_read? hm), ← lowerFrom_of_ascii [] (ascii_of_read? hn)]
    exact h
  rw [← Numeral.read?_smallLetters, hsmall, Numeral.read?_smallLetters, hn] at hm
  exact (Option.some.inj hm).symm

end Number

/-! ## 2. Values that count as equal numbers -/

namespace Json

/-- **Texts that are alike spell the same number.** -/
theorem number?_eq_of_alike {s t : String} {x y : Float} (h : Alike s t)
    (hx : (text s).number? = some x) (hy : (text t).number? = some y) : x = y := by
  obtain ⟨hs, -⟩ := number?_text_eq_some_iff.mp hx
  obtain ⟨ht, -⟩ := number?_text_eq_some_iff.mp hy
  unfold Number.read? trim at hs ht
  rw [String.toList_ofList] at hs ht
  obtain ⟨m, hm, rfl⟩ := Option.map_eq_some_iff.mp hs
  obtain ⟨n, hn, rfl⟩ := Option.map_eq_some_iff.mp ht
  rw [Number.Numeral.read?_eq_of_lowerChars hm hn h.folded_eq]

/-- **Two texts that spell the same number and are not alike.** -/
inductive Respelled : Json → Json → Prop where
  | texts (s t : String) (x y : Float) (hx : (text s).number? = some x)
      (hy : (text t).number? = some y) (hsame : Number.same x y = true) (hnot : ¬ Alike s t) :
      Respelled (.text s) (.text t)

/-- What counts as a number and is none is a text. -/
theorem exists_text {a : Json} {x : Float} (hx : a.number? = some x) (h : ¬ a.isNumber = true) :
    ∃ s, a = .text s := by
  cases a with
  | list items | record fields => cases hx
  | scalar s =>
      cases s with
      | null | bool b => cases hx
      | int n | float z => exact absurd rfl h
      | text s => exact ⟨s, rfl⟩

theorem Respelled.place_eq {a value : Json} {x y : Float} (h : Respelled a value)
    (hx : a.number? = some x) (hy : value.number? = some y) :
    Number.place x = Number.place y := by
  cases h with
  | texts s t x' y' hx' hy' hsame hnot =>
      obtain rfl : x' = x := Option.some.inj (hx'.symm.trans hx)
      obtain rfl : y' = y := Option.some.inj (hy'.symm.trans hy)
      have hfinite := finite_of_number?_eq_some hx'
      have hfinite' := finite_of_number?_eq_some hy'
      rw [Number.same_of_finite hfinite hfinite'] at hsame
      exact of_decide_eq_true hsame

section Numbers

variable {a value : Json} {x y : Float} (hx : a.number? = some x) (hy : value.number? = some y)
include hx hy

/-- As soon as one of them is a number, numbers are compared. -/
theorem looselyEqual_eq_same (hnumber : a.isNumber = true ∨ value.isNumber = true) :
    looselyEqual a value = Number.same x y := by
  have hcompares : looselyEqual a value = compares Number.same a value := by
    unfold looselyEqual
    split
    · rcases hnumber with h | h
      · cases h
      · cases h
    · rw [if_pos (Bool.or_eq_true_iff.mpr hnumber)]
  rw [hcompares, compares_of_numbers hx hy]

/-- **Values that count as numbers are equal where the numbers are the same and not respelled.** -/
theorem looselyEqual_iff :
    looselyEqual a value = true ↔ Number.same x y = true ∧ ¬ Respelled a value := by
  by_cases hnumber : a.isNumber = true ∨ value.isNumber = true
  · rw [looselyEqual_eq_same hx hy hnumber, iff_self_and]
    rintro - ⟨s, t⟩
    rcases hnumber with h | h
    · cases h
    · cases h
  · obtain ⟨s, rfl⟩ : ∃ s, a = .text s := exists_text hx fun h => hnumber (.inl h)
    obtain ⟨t, rfl⟩ : ∃ t, value = .text t := exists_text hy fun h => hnumber (.inr h)
    constructor
    · intro halike
      obtain rfl := number?_eq_of_alike halike hx hy
      refine ⟨?_, fun h => ?_⟩
      · rw [Number.same_of_finite (finite_of_number?_eq_some hx) (finite_of_number?_eq_some hx)]
        exact decide_eq_true rfl
      · cases h with
        | texts _ _ _ _ _ _ _ hnot => exact hnot halike
    · rintro ⟨hsame, hrespelled⟩
      by_contra hnot
      exact hrespelled (.texts s t x y hx hy hsame hnot)

end Numbers

end Json

/-! ## 3. Equality and order -/

namespace Operator

variable {a value : Json} {x y : Float}

/-- **Equality follows order, unless a number is respelled.** For a field and a value that count as
    numbers, equality agrees with at least and at most, and its opposite with above and below,
    exactly where the two are not two spellings of one number. What is equal is always at least and
    at most as much; a respelled number is so without being equal. -/
theorem equality_follows_order_iff (hx : a.number? = some x) (hy : value.number? = some y) :
    ((holds .equals (some a) value = true ↔
        holds .atLeast (some a) value = true ∧ holds .atMost (some a) value = true) ↔
      ¬ Json.Respelled a value) ∧
    ((holds .notEquals (some a) value = true ↔
        holds .above (some a) value = true ∨ holds .below (some a) value = true) ↔
      ¬ Json.Respelled a value) ∧
    (holds .equals (some a) value = true →
      holds .atLeast (some a) value = true ∧ holds .atMost (some a) value = true) ∧
    (Json.Respelled a value → ¬ holds .equals (some a) value = true ∧
      holds .atLeast (some a) value = true ∧ holds .atMost (some a) value = true) := by
  have ha := Json.ne_null_of_number? hx
  have hequals : holds .equals (some a) value = true ↔
      Number.place x = Number.place y ∧ ¬ Json.Respelled a value := by
    rw [(equals_answers ha).holds_iff, Option.some_inj, Json.looselyEqual_iff hx hy,
      Number.same_of_finite (Json.finite_of_number?_eq_some hx)
        (Json.finite_of_number?_eq_some hy), decide_eq_true_eq]
  have hnotEquals : holds .notEquals (some a) value = true ↔
      ¬ (Number.place x = Number.place y ∧ ¬ Json.Respelled a value) := by
    rw [← hequals, (equals_answers ha).holds_iff, (equals_answers ha).other_holds_iff,
      Option.some_inj, Option.some_inj, Bool.not_eq_true]
  have hrespelled : Json.Respelled a value → Number.place x = Number.place y :=
    fun h => h.place_eq hx hy
  rw [hequals, hnotEquals, atLeast_holds_iff hx hy, atMost_holds_iff hx hy, above_holds_iff hx hy,
    below_holds_iff hx hy]
  -- what is left is about two places on the line
  generalize Number.place x = p at hrespelled ⊢
  generalize Number.place y = q at hrespelled ⊢
  by_cases h : Json.Respelled a value
  · obtain rfl := hrespelled h
    simp [h]
  · simp only [h, not_false_eq_true, and_true, iff_true, false_implies]
    omega

/-- A text that spells seventy with an exponent is equal to the number seventy, and to what differs
    from it by blanks and the case of its letters. -/
theorem equality_follows_order_seventy :
    let seventy : Json := .text " 7E1"
    seventy.number? = some (Number.nearest 7 1) ∧
      (Json.int 70).number? = some (Float.ofInt 70) ∧
      (holds .equals (some seventy) (.int 70) = true ↔
        holds .atLeast (some seventy) (.int 70) = true ∧
          holds .atMost (some seventy) (.int 70) = true) ∧
      holds .equals (some seventy) (.text "7e1 ") = true ∧
      holds .atLeast (some seventy) (.text "7e1 ") = true ∧
      holds .atMost (some seventy) (.text "7e1 ") = true := by
  intro seventy
  have hseventy : seventy.number? = some (Number.nearest 7 1) := by rfl
  have hwhole : (Json.int 70).number? = some (Float.ofInt 70) := by rfl
  have hother : (Json.text "7e1 ").number? = some (Number.nearest 7 1) := by rfl
  have hequals : holds .equals (some seventy) (.text "7e1 ") = true := by decide +kernel
  have hordinary : ¬ Json.Respelled (.text " 7E1") (.int 70) := nofun
  exact ⟨hseventy, hwhole, (equality_follows_order_iff hseventy hwhole).1.mpr hordinary, hequals,
    (equality_follows_order_iff hseventy hother).2.2.1 hequals⟩

/-- **One is not equal to one point zero where both are texts**, though it is at least and at most
    as much. -/
theorem one_respelled :
    let one : Json := .text "1"
    let value : Json := .text "1.0"
    one.number?.isSome = true ∧ value.number?.isSome = true ∧
      ¬ (holds .equals (some one) value = true ↔
        holds .atLeast (some one) value = true ∧ holds .atMost (some one) value = true) ∧
      ¬ (holds .notEquals (some one) value = true ↔
        holds .above (some one) value = true ∨ holds .below (some one) value = true) := by
  decide +kernel

end Operator

end LeadRouting
