import Mathlib.Data.List.Basic
import LeadRouting.Text.Alike

/-!
# Spellings and listings

Whether two texts are alike is found out in two steps, by the case of the letters `A` to `Z` first
and by the full lower case then. This file says that the first step never decides alone, so that
being alike is being the SAME in one normal form, and what follows for lists of texts.

* `lowerChars_smallLetters` -- the full lower case does not see the case of `A` to `Z`, not even
  where it looks at the neighbours of a capital sigma;
* `folded` -- the normal form; **`alike_iff`**: two texts are alike exactly where it is the same;
* `Relisted R` -- two lists that differ in the order of their entries, in how often an entry stands
  there, and in entries that are replaced by related ones; `Relisted.any_eq` and `Relisted.all_eq`
  say that a test which related entries pass together cannot tell them apart;
* `listed_eq` -- so neither a new listing nor a new spelling changes whether a text is listed.
-/

namespace LeadRouting.Text

/-! ## 1. The case of `A` to `Z` -/

/-- What is the same for each capital from `A` to `Z` and its small letter is the same for every
    character and its small letter. -/
theorem apply_toLower {α : Type} (f : Char → α)
    (h : ∀ n < 26, f (Char.ofNat (0x41 + n)).toLower = f (Char.ofNat (0x41 + n))) (c : Char) :
    f c.toLower = f c := by
  by_cases hc : 0x41 ≤ c.toNat ∧ c.toNat ≤ 0x5A
  · have hn := h (c.toNat - 0x41) (by omega)
    rwa [Nat.add_sub_cancel' hc.1, Char.ofNat_toNat] at hn
  · have hsame : c.toLower = c := by
      unfold Char.toLower
      exact dif_neg hc
    rw [hsame]

theorem isCased_toLower (c : Char) : isCased c.toLower = isCased c :=
  apply_toLower isCased (by decide +kernel) c

/-- No code point between two bounds lies in ranges that end before or begin behind them. -/
theorem inRanges_eq_false {ranges : List (Nat × Nat)} (lo hi : Nat) {n : Nat}
    (h : ∀ range ∈ ranges, range.2 < lo ∨ hi < range.1) (hlo : lo ≤ n) (hhi : n ≤ hi) :
    inRanges ranges n = false := by
  unfold inRanges
  rw [List.any_eq_false]
  intro range hrange hin
  obtain ⟨hfirst, hlast⟩ := Bool.and_eq_true_iff.mp hin
  have hfirst := of_decide_eq_true hfirst
  have hlast := of_decide_eq_true hlast
  rcases h range hrange with hbefore | hbehind
  · omega
  · omega

/-- No letter from `A` to `Z` is looked through, whatever its case. -/
theorem isCaseIgnorable_toLower (c : Char) : isCaseIgnorable c.toLower = isCaseIgnorable c := by
  refine apply_toLower isCaseIgnorable (fun n hn => ?_) c
  have hcode : ∀ n < 26, (Char.ofNat (0x41 + n)).toNat = 0x41 + n ∧
      (Char.ofNat (0x41 + n)).toLower.toNat = 0x61 + n := by decide
  have hcapital : isCaseIgnorable (Char.ofNat (0x41 + n)) = false := by
    unfold isCaseIgnorable
    rw [(hcode n hn).1]
    exact inRanges_eq_false 0x41 0x5A (by decide +kernel) (by omega) (by omega)
  have hsmall : isCaseIgnorable (Char.ofNat (0x41 + n)).toLower = false := by
    unfold isCaseIgnorable
    rw [(hcode n hn).2]
    exact inRanges_eq_false 0x61 0x7A (by decide +kernel) (by omega) (by omega)
  rw [hcapital, hsmall]

theorem lowerChar_toLower (c : Char) : lowerChar c.toLower = lowerChar c :=
  apply_toLower lowerChar (by decide +kernel) c

theorem toLower_eq_sigma_iff (c : Char) : c.toLower = 'Σ' ↔ c = 'Σ' :=
  Iff.of_eq (apply_toLower (· = 'Σ') (by decide +kernel) c)

theorem meetsCased_smallLetters (cs : List Char) :
    meetsCased (smallLetters cs) = meetsCased cs := by
  have hignorable : isCaseIgnorable ∘ Char.toLower = isCaseIgnorable :=
    funext isCaseIgnorable_toLower
  have hcased : isCased ∘ Char.toLower = isCased := funext isCased_toLower
  unfold meetsCased smallLetters
  rw [List.dropWhile_map, hignorable, List.head?_map, Option.map_map, hcased]

/-- The lower case of the rest of a text does not see the case of `A` to `Z`, neither there nor in
    what stands before it. -/
theorem lowerFrom_smallLetters (before cs : List Char) :
    lowerFrom (smallLetters before) (smallLetters cs) = lowerFrom before cs := by
  induction cs generalizing before with
  | nil => rfl
  | cons c rest ih =>
      have hrest : lowerFrom (c.toLower :: smallLetters before) (smallLetters rest) =
          lowerFrom (c :: before) rest := ih (c :: before)
      have hcons : smallLetters (c :: rest) = c.toLower :: smallLetters rest := rfl
      rw [hcons, lowerFrom, lowerFrom, meetsCased_smallLetters, meetsCased_smallLetters,
        lowerChar_toLower, hrest]
      simp only [toLower_eq_sigma_iff]

theorem lowerChars_smallLetters (cs : List Char) : lowerChars (smallLetters cs) = lowerChars cs :=
  lowerFrom_smallLetters [] cs

/-! ## 2. Texts that are alike -/

/-- The normal form of a text: its lower case without the blanks at both ends. -/
def folded (s : String) : List Char := lowerChars (trimChars s.toList)

/-- **Two texts are alike exactly where their normal form is the same.** -/
theorem alike_iff {a b : String} : alike a b = true ↔ folded a = folded b := by
  unfold alike folded
  rw [Bool.or_eq_true, decide_eq_true_eq, decide_eq_true_eq]
  constructor
  · rintro (hletters | hlower)
    · rw [← lowerChars_smallLetters, hletters, lowerChars_smallLetters]
    · exact hlower
  · exact fun hlower => .inr hlower

/-- The relation of texts that are alike. -/
def Alike (a b : String) : Prop := alike a b = true

instance (a b : String) : Decidable (Alike a b) := inferInstanceAs (Decidable (alike a b = true))

theorem Alike.folded_eq {a b : String} (h : Alike a b) : folded a = folded b := alike_iff.mp h

theorem Alike.refl (a : String) : Alike a a := alike_iff.mpr rfl

theorem Alike.symm {a b : String} (h : Alike a b) : Alike b a := alike_iff.mpr h.folded_eq.symm

theorem Alike.trans {a b c : String} (h : Alike a b) (h' : Alike b c) : Alike a c :=
  alike_iff.mpr (h.folded_eq.trans h'.folded_eq)

theorem Alike.left_eq {a b : String} (h : Alike a b) (c : String) : alike a c = alike b c := by
  rw [Bool.eq_iff_iff, alike_iff, alike_iff, h.folded_eq]

theorem Alike.right_eq {a b : String} (h : Alike a b) (c : String) : alike c a = alike c b := by
  rw [Bool.eq_iff_iff, alike_iff, alike_iff, h.folded_eq]

end LeadRouting.Text

namespace LeadRouting

/-! ## 3. Lists of entries -/

/-- **Two lists that differ only** in the order of their entries, in how often an entry stands
    there, and in entries that are replaced by related ones, in any number of steps. -/
inductive Relisted {α : Type} (R : α → α → Prop) : List α → List α → Prop where
  | reorder {xs ys : List α} (h : xs.Perm ys) : Relisted R xs ys
  | repeated {xs : List α} {x : α} (h : x ∈ xs) : Relisted R xs (x :: xs)
  | replace {xs ys : List α} (h : List.Forall₂ R xs ys) : Relisted R xs ys
  | symm {xs ys : List α} (h : Relisted R xs ys) : Relisted R ys xs
  | trans {xs ys zs : List α} (h : Relisted R xs ys) (h' : Relisted R ys zs) : Relisted R xs zs

namespace Relisted

variable {α : Type} {R : α → α → Prop} {xs ys : List α} {p : α → Bool}

theorem refl (xs : List α) : Relisted R xs xs := .reorder (.refl xs)

theorem any_eq_of_forall₂ (h : List.Forall₂ R xs ys) (hp : ∀ x y, R x y → p x = p y) :
    xs.any p = ys.any p := by
  induction h with
  | nil => rfl
  | cons hxy _ ih => rw [List.any_cons, List.any_cons, hp _ _ hxy, ih]

/-- **A test that related entries pass together is passed by some entry of both lists or of
    neither.** -/
theorem any_eq (h : Relisted R xs ys) (hp : ∀ x y, R x y → p x = p y) : xs.any p = ys.any p := by
  induction h with
  | reorder h => exact h.any_eq
  | repeated h =>
      rename_i xs x
      rw [List.any_cons, Bool.eq_iff_iff, Bool.or_eq_true, List.any_eq_true]
      constructor
      · exact .inr
      · rintro (hx | hsome)
        · exact ⟨x, h, hx⟩
        · exact hsome
  | replace h => exact any_eq_of_forall₂ h hp
  | symm _ ih => exact ih.symm
  | trans _ _ ih ih' => exact ih.trans ih'

/-- Such a test is passed by all entries of both lists or of neither. -/
theorem all_eq (h : Relisted R xs ys) (hp : ∀ x y, R x y → p x = p y) : xs.all p = ys.all p := by
  have hnot : xs.any (fun x => !p x) = ys.any fun x => !p x :=
    h.any_eq fun x y hxy => congrArg not (hp x y hxy)
  rw [List.all_eq_not_any_not, List.all_eq_not_any_not, hnot]

theorem isEmpty_eq (h : Relisted R xs ys) : xs.isEmpty = ys.isEmpty := by
  have hany : ∀ l : List α, l.isEmpty = !l.any fun _ => true := by
    intro l
    cases l with
    | nil => rfl
    | cons x rest => rfl
  rw [hany, hany, h.any_eq fun _ _ _ => rfl]

end Relisted

/-! ## 4. Texts in a list -/

namespace Text

variable {entries others : List String} {value other : Option String}

/-- **Whether a text is listed depends neither on how the list is written nor on how the text is
    spelled.** -/
theorem listed_eq (hentries : Relisted Alike entries others)
    (hvalue : Option.Rel Alike value other) :
    listed entries value = listed others other := by
  cases hvalue with
  | none => rfl
  | some h =>
      rename_i v w
      have hentry : ∀ e f, Alike e f → alike e v = alike f v := fun e f hef => hef.left_eq v
      rw [listed_some, listed_some, hentries.any_eq hentry]
      exact congrArg others.any (funext fun e => h.right_eq e)

end Text

end LeadRouting
