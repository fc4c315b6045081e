import Mathlib.Data.List.DropRight
import Mathlib.Data.String.Basic
import LeadRouting.Proofs.Occurrences
import LeadRouting.Proofs.Spelling

/-!
# Normal forms of texts

Two texts are alike where they are the same in lower case once they are trimmed. This file says
that this is a NORMAL form: it is itself trimmed and in lower case, so that a text is alike its own
normal form and may be kept in it.

* `Run.lowered` -- the code point to which a run of the case table lowers one of its letters;
  `Run.not_has_lowered`: it lies in no run, so that nothing more is to be lowered;
* `Small` -- a character that the lower case leaves as it is; the lower case of a text has no
  others, so that **lowering twice is lowering once** (`lowerChars_lowerChars`);
* `trimChars_lowerChars` -- trimming and lowering may change places: no letter becomes a blank, and
  blanks decide about no sigma;
* `folded_lower_trim` -- a normal form is its own normal form;
* **`alike_equivalence`** -- being alike is the equivalence of having the same normal form, and a
  list does not tell alike texts apart, neither among its entries nor among what is looked for.
-/

namespace LeadRouting.Text

/-! ## 1. Runs of letters -/

/-- A run of upper-case letters: first, last, step, and what is added for the lower-case letter. -/
abbrev Run := Nat × Nat × Nat × Int

namespace Run

/-- The code points of the letters in a run. -/
def Has (run : Run) (n : Nat) : Prop := run.1 ≤ n ∧ n ≤ run.2.1 ∧ (n - run.1) % run.2.2.1 = 0

/-- The code point to which a run lowers one of its code points. -/
def lowered (run : Run) (n : Nat) : Nat := (n + run.2.2.2).toNat

/-- Whether the code points from `first` to `last` lie in front of a run, behind it or, if only
    every second one counts, between its letters. -/
def apart (first last : Nat) (everySecond : Bool) (run : Run) : Bool :=
  Nat.blt last run.1 || Nat.blt run.2.1 first ||
    (Nat.beq run.2.2.1 2 && everySecond && Nat.beq ((first - run.1) % 2) 1)

theorem not_has_of_apart {first last n : Nat} {everySecond : Bool} {run : Run}
    (h : apart first last everySecond run = true) (hfirst : first ≤ n) (hlast : n ≤ last)
    (hsecond : everySecond = true → (n - first) % 2 = 0) : ¬ run.Has n := by
  rintro ⟨hlo, hhi, hin⟩
  simp only [apart, Bool.or_eq_true, Bool.and_eq_true, Nat.blt_eq, Nat.beq_eq] at h
  rcases h with (hbefore | hbehind) | ⟨⟨htwo, hcounts⟩, hodd⟩
  · omega
  · omega
  · have heven := hsecond hcounts
    rw [htwo] at hin
    omega

/-- Code points that are no lower-case letters: the blanks, the dotted `İ` and the surrogates. -/
def bareRanges : List (Nat × Nat) :=
  [(0x9, 0xD), (0x20, 0x20), (0x85, 0x85), (0xA0, 0xA0), (0x130, 0x130), (0x1680, 0x1680),
   (0x2000, 0x200A), (0x2028, 0x2029), (0x202F, 0x202F), (0x205F, 0x205F), (0x3000, 0x3000),
   (0xD800, 0xDFFF)]

/-- The lower-case letters of every run lie apart from all runs. -/
theorem lowered_apart : (lowercaseRuns.all fun run => lowercaseRuns.all
    (apart (lowered run run.1) (lowered run run.2.1)
      (Nat.beq run.2.2.1 2 || Nat.beq run.1 run.2.1))) = true := by decide +kernel

/-- They lie between bounds, and apart from what is no lower-case letter. -/
theorem lowered_bounds : ∀ run ∈ lowercaseRuns, 0 ≤ run.1 + run.2.2.2 ∧
    run.2.1 + run.2.2.2 < 0x110000 ∧ ∀ range ∈ bareRanges,
      range.2 < lowered run run.1 ∨ lowered run run.2.1 < range.1 := by
  decide +kernel

section Lowered

variable {run other : Run} {n : Nat}

/-- What a run lowers to lies in no run. -/
theorem not_has_lowered (hrun : run ∈ lowercaseRuns) (h : run.Has n)
    (hother : other ∈ lowercaseRuns) : ¬ other.Has (run.lowered n) := by
  obtain ⟨hlo, hhi, hstep⟩ := h
  obtain ⟨hpos, -, -⟩ := lowered_bounds run hrun
  have hapart := List.all_eq_true.mp (List.all_eq_true.mp lowered_apart run hrun) other hother
  unfold lowered at hapart ⊢
  refine not_has_of_apart hapart (by omega) (by omega) fun hsecond => ?_
  rw [Bool.or_eq_true, Nat.beq_eq, Nat.beq_eq] at hsecond
  rcases hsecond with htwo | hsingle
  · rw [htwo] at hstep
    omega
  · omega

theorem lowered_not_bare (hrun : run ∈ lowercaseRuns) (h : run.Has n) :
    inRanges bareRanges (run.lowered n) = false := by
  obtain ⟨hlo, hhi, -⟩ := h
  obtain ⟨-, -, hbare⟩ := lowered_bounds run hrun
  unfold lowered at hbare ⊢
  exact inRanges_eq_false _ _ hbare (by omega) (by omega)

/-- What a run lowers to is a character. -/
theorem toNat_lowered (hrun : run ∈ lowercaseRuns) (h : run.Has n) :
    (Char.ofNat (run.lowered n)).toNat = run.lowered n := by
  have hsurrogates := List.any_eq_false.mp (lowered_not_bare hrun h) (0xD800, 0xDFFF) (by decide)
  rw [Bool.and_eq_true, decide_eq_true_eq, decide_eq_true_eq] at hsurrogates
  have hlt : run.lowered n < 0x110000 := by
    obtain ⟨-, hhi, -⟩ := h
    obtain ⟨-, hbound, -⟩ := lowered_bounds run hrun
    unfold lowered
    omega
  have hvalid : (run.lowered n).isValidChar := by
    unfold Nat.isValidChar
    omega
  rw [Char.toNat_ofNat, if_pos hvalid]

end Lowered

end Run

/-- A character is its own lower-case letter unless a run says which one it has. -/
theorem lowerLetter_cases (c : Char) : lowerLetter c = c ∨ ∃ run ∈ lowercaseRuns,
    Run.Has run c.toNat ∧ lowerLetter c = Char.ofNat (Run.lowered run c.toNat) := by
  unfold lowerLetter
  split
  · by_cases hcapital : c.isUpper = true
    · have hrange : 0x41 ≤ c.toNat ∧ c.toNat ≤ 0x5A := by
        simpa [Char.isUpper, UInt32.le_iff_toNat_le] using hcapital
      exact .inr ⟨_, List.mem_cons_self, ⟨hrange.1, hrange.2, Nat.mod_one _⟩,
        Char.toLower_eq_of_isUpper hcapital⟩
    · exact .inl (Char.toLower_eq_of_not_isUpper hcapital)
  · split
    · rename_i hfound
      have hin := List.find?_some hfound
      refine .inr ⟨_, List.mem_of_find?_eq_some hfound, ?_, rfl⟩
      simpa [Run.Has, and_assoc] using hin
    · exact .inl rfl

theorem isBlank_eq_false_of_bare {c : Char} (h : inRanges Run.bareRanges c.toNat = false) :
    isBlank c = false := by
  simp only [inRanges, Run.bareRanges, List.any_cons, List.any_nil, Bool.or_false,
    Bool.or_eq_false_iff, Bool.and_eq_false_imp, decide_eq_true_eq, decide_eq_false_iff_not,
    not_le] at h
  simp only [isBlank, Bool.or_eq_false_iff, Bool.and_eq_false_imp, decide_eq_true_eq,
    decide_eq_false_iff_not, not_le]
  omega

/-! ## 2. Small letters -/

/-- A character that the lower case leaves as it is. -/
def Small (c : Char) : Prop := lowerChar c = [c] ∧ c ≠ 'Σ'

instance (c : Char) : Decidable (Small c) :=
  inferInstanceAs (Decidable (lowerChar c = [c] ∧ c ≠ 'Σ'))

theorem lowerLetter_sigma : lowerLetter 'Σ' = 'σ' := by decide +kernel

/-- **A letter that is lowered becomes a small one, and no blank.** -/
theorem lowerLetter_eq_or_small (c : Char) :
    lowerLetter c = c ∨ Small (lowerLetter c) ∧ isBlank (lowerLetter c) = false := by
  rcases lowerLetter_cases c with hsame | ⟨run, hrun, hin, hlower⟩
  · exact .inl hsame
  · have hcode := Run.toNat_lowered hrun hin
    have hbare := Run.lowered_not_bare hrun hin
    rw [← hlower] at hcode
    rw [← hcode] at hbare
    have hagain : lowerLetter (lowerLetter c) = lowerLetter c := by
      rcases lowerLetter_cases (lowerLetter c) with hsame | ⟨other, hother, hthere, -⟩
      · exact hsame
      · rw [hcode] at hthere
        exact absurd hthere (Run.not_has_lowered hrun hin hother)
    have hdotted : lowerLetter c ≠ 'İ' := by
      intro h
      rw [h] at hbare
      exact absurd hbare (by decide)
    -- a capital sigma would be lowered once more
    have hsigma : lowerLetter c ≠ 'Σ' := by
      intro h
      rw [h, lowerLetter_sigma] at hagain
      exact absurd hagain (by decide)
    refine .inr ⟨⟨?_, hsigma⟩, isBlank_eq_false_of_bare hbare⟩
    rw [lowerChar, if_neg hdotted, hagain]

/-- The lower case of a character consists of small letters, and has no blank unless the character
    is one. -/
theorem lowerChar_small {c : Char} (hsigma : c ≠ 'Σ') : ∀ d ∈ lowerChar c,
    Small d ∧ (isBlank c = false → isBlank d = false) := by
  have hdot : (Small 'i' ∧ isBlank 'i' = false) ∧
      Small '\u0307' ∧ isBlank '\u0307' = false := by decide +kernel
  unfold lowerChar
  split
  · rw [List.forall_mem_cons, List.forall_mem_singleton]
    exact ⟨⟨hdot.1.1, fun _ => hdot.1.2⟩, hdot.2.1, fun _ => hdot.2.2⟩
  · rename_i hdotted
    rw [List.forall_mem_singleton]
    rcases lowerLetter_eq_or_small c with hsame | ⟨hsmall, hblank⟩
    · have hlower : lowerChar c = [c] := by rw [lowerChar, if_neg hdotted, hsame]
      rw [hsame]
      exact ⟨⟨hlower, hsigma⟩, id⟩
    · exact ⟨hsmall, fun _ => hblank⟩

theorem lowerChar_ne_nil (c : Char) : lowerChar c ≠ [] := by
  unfold lowerChar
  split
  · exact List.cons_ne_nil _ _
  · exact List.cons_ne_nil _ _

/-- What a character becomes in a text consists of small letters, at least one, and has no blank
    unless the character is one. -/
theorem lowerIn_singleton (front back : Bool) (c : Char) : lowerIn front back [c] ≠ [] ∧
    ∀ d ∈ lowerIn front back [c], Small d ∧ (isBlank c = false → isBlank d = false) := by
  have hsigmas : (Small 'ς' ∧ isBlank 'ς' = false) ∧ Small 'σ' ∧ isBlank 'σ' = false := by
    decide +kernel
  rw [lowerIn, lowerIn, List.append_nil]
  by_cases hsigma : c = 'Σ'
  · rw [if_pos hsigma, List.forall_mem_singleton]
    refine ⟨List.cons_ne_nil _ _, ?_⟩
    split
    · exact ⟨hsigmas.1.1, fun _ => hsigmas.1.2⟩
    · exact ⟨hsigmas.2.1, fun _ => hsigmas.2.2⟩
  · rw [if_neg hsigma]
    exact ⟨lowerChar_ne_nil c, lowerChar_small hsigma⟩

/-- A text is lowered character after character. -/
theorem lowerIn_cons (front back : Bool) (c : Char) (rest : List Char) :
    lowerIn front back (c :: rest) =
      lowerIn front (met back rest) [c] ++ lowerIn (met front [c]) back rest :=
  lowerIn_append front back [c] rest

/-- The lower case of a text consists of small letters. -/
theorem small_of_mem_lowerIn {front back : Bool} {cs : List Char} :
    ∀ d ∈ lowerIn front back cs, Small d := by
  induction cs generalizing front with
  | nil => exact List.forall_mem_nil _
  | cons c rest ih =>
      rw [lowerIn_cons, List.forall_mem_append]
      exact ⟨fun d hd => ((lowerIn_singleton _ _ c).2 d hd).1, ih⟩

theorem lowerIn_of_small {front back : Bool} {cs : List Char} (h : ∀ c ∈ cs, Small c) :
    lowerIn front back cs = cs := by
  induction cs generalizing front with
  | nil => rfl
  | cons c rest ih =>
      obtain ⟨⟨hlower, hsigma⟩, hrest⟩ := List.forall_mem_cons.mp h
      rw [lowerIn, if_neg hsigma, hlower, ih hrest, List.singleton_append]

/-- **Lowering twice is lowering once.** -/
theorem lowerChars_lowerChars (cs : List Char) : lowerChars (lowerChars cs) = lowerChars cs := by
  rw [lowerChars_eq (lowerChars cs)]
  refine lowerIn_of_small ?_
  rw [lowerChars_eq]
  exact small_of_mem_lowerIn

/-! ## 3. Trimming and lowering -/

theorem trimStart_append {cs : List Char} (ds : List Char) (hne : cs ≠ [])
    (h : ∀ c ∈ cs, isBlank c = false) : trimStart (cs ++ ds) = cs ++ ds := by
  obtain ⟨c, rest, rfl⟩ := List.exists_cons_of_ne_nil hne
  exact List.dropWhile_cons_of_neg (Bool.eq_false_iff.mp (h c List.mem_cons_self))

theorem trimEnd_append (cs : List Char) {ds : List Char} (hne : ds ≠ [])
    (h : ∀ d ∈ ds, isBlank d = false) : trimEnd (cs ++ ds) = cs ++ ds := by
  have hreverse : trimStart (ds.reverse ++ cs.reverse) = ds.reverse ++ cs.reverse :=
    trimStart_append _ (List.reverse_ne_nil_iff.mpr hne) fun d hd => h d (List.mem_reverse.mp hd)
  unfold trimStart at hreverse
  rw [trimEnd, List.reverse_append, hreverse, ← List.reverse_append, List.reverse_reverse]

/-- A blank stays as it is, and is not met. -/
theorem lowerIn_blank {c : Char} (h : isBlank c = true) (front back : Bool) :
    lowerIn front back [c] = [c] ∧ met false [c] = false := by
  have hall := List.forall_mem_singleton (p := fun c => isBlank c = true).mpr h
  exact ⟨lowerIn_of_blanks hall front back, met_of_blanks hall⟩

theorem trimStart_lowerIn (back : Bool) (cs : List Char) :
    trimStart (lowerIn false back cs) = lowerIn false back (trimStart cs) := by
  induction cs with
  | nil => rfl
  | cons c rest ih =>
      cases hblank : isBlank c with
      | true =>
          -- a blank in front is not met, so that the rest is lowered as if the text began there
          obtain ⟨hlower, hmet⟩ := lowerIn_blank hblank false (met back rest)
          have hdrop : ∀ ds, trimStart (c :: ds) = trimStart ds :=
            fun ds => List.dropWhile_cons_of_pos hblank
          rw [lowerIn_cons, hlower, hmet, List.singleton_append, hdrop, hdrop, ih]
      | false =>
          obtain ⟨hne, hpiece⟩ := lowerIn_singleton false (met back rest) c
          have hkeep : trimStart (c :: rest) = c :: rest :=
            List.dropWhile_cons_of_neg (Bool.eq_false_iff.mp hblank)
          rw [hkeep, lowerIn_cons]
          exact trimStart_append _ hne fun d hd => (hpiece d hd).2 hblank

theorem trimEnd_lowerIn (front : Bool) (cs : List Char) :
    trimEnd (lowerIn front false cs) = lowerIn front false (trimEnd cs) := by
  -- the induction is from the end of the text, where the blanks are
  induction cs using List.reverseRecOn with
  | nil => rfl
  | append_singleton rest c ih =>
      cases hblank : isBlank c with
      | true =>
          obtain ⟨hlower, hmet⟩ := lowerIn_blank hblank (met front rest.reverse) false
          have hdrop : ∀ ds, trimEnd (ds ++ [c]) = trimEnd ds :=
            fun ds => List.rdropWhile_concat_pos isBlank ds c hblank
          rw [lowerIn_append, hlower, hmet, hdrop, hdrop, ih]
      | false =>
          obtain ⟨hne, hpiece⟩ := lowerIn_singleton (met front rest.reverse) false c
          have hkeep : trimEnd (rest ++ [c]) = rest ++ [c] :=
            List.rdropWhile_concat_neg isBlank rest c (Bool.eq_false_iff.mp hblank)
          rw [hkeep, lowerIn_append]
          exact trimEnd_append _ hne fun d hd => (hpiece d hd).2 hblank

/-- **Trimming and lowering may change places.** -/
theorem trimChars_lowerChars (cs : List Char) :
    trimChars (lowerChars cs) = lowerChars (trimChars cs) := by
  unfold trimChars
  rw [lowerChars_eq, lowerChars_eq, trimStart_lowerIn, trimEnd_lowerIn]

/-- What is trimmed has no blank in front left. -/
theorem trimStart_trimChars (cs : List Char) : trimStart (trimChars cs) = trimChars cs := by
  have hstart : trimStart (trimStart cs) = trimStart cs := List.dropWhile_idempotent isBlank cs
  unfold trimChars
  generalize trimStart cs = ds at hstart ⊢
  cases htrimmed : trimEnd ds with
  | nil => rfl
  | cons d rest =>
      -- what is left starts with the first character, and that is no blank
      have hfront : trimEnd ds <+: ds := List.rdropWhile_prefix isBlank ds
      rw [htrimmed] at hfront
      obtain ⟨back, rfl⟩ := hfront
      exact List.dropWhile_cons_of_neg (List.dropWhile_eq_self_iff.mp hstart (Nat.succ_pos _))

theorem trimChars_trimChars (cs : List Char) : trimChars (trimChars cs) = trimChars cs := by
  have hend : trimEnd (trimChars cs) = trimChars cs :=
    List.rdropWhile_idempotent isBlank (trimStart cs)
  conv_lhs => rw [trimChars, trimStart_trimChars, hend]

/-! ## 4. Normal forms -/

theorem toList_lower_trim (s : String) : (lower (trim s)).toList = folded s := by
  unfold lower trim folded
  rw [String.toList_ofList, String.toList_ofList]

theorem lower_trim_eq_iff {a b : String} :
    lower (trim a) = lower (trim b) ↔ folded a = folded b := by
  rw [← String.toList_inj, toList_lower_trim, toList_lower_trim]

/-- Texts that are equal but for the case of `A` to `Z` have the same lower case. -/
theorem lower_eq_of_letters {a b : String} (h : alikeLetters a b = true) : lower a = lower b := by
  have hletters : smallLetters a.toList = smallLetters b.toList := of_decide_eq_true h
  unfold lower
  rw [← lowerChars_smallLetters, hletters, lowerChars_smallLetters]

/-- **A normal form is its own normal form.** -/
theorem folded_lower_trim (s : String) : folded (lower (trim s)) = folded s := by
  rw [folded, toList_lower_trim]
  unfold folded
  rw [trimChars_lowerChars, trimChars_trimChars, lowerChars_lowerChars]

/-- **Being alike is an equivalence**, that of having the same normal form: two texts are alike
    exactly where they are the same in lower case once they are trimmed. Texts that then differ in
    the case of `A` to `Z` only always are, whatever sigmas stand among these letters. Every text is
    alike its own normal form, and a list does not tell alike texts apart. -/
theorem alike_equivalence :
    (∀ a b : String, alike a b = true ↔ lower (trim a) = lower (trim b)) ∧
    (∀ a b : String, alikeLetters (trim a) (trim b) = true → lower (trim a) = lower (trim b)) ∧
    Equivalence Alike ∧
    (∀ s : String, Alike s (lower (trim s))) ∧
    ∀ (entries others : List String) (value other : Option String),
      List.Forall₂ Alike entries others → Option.Rel Alike value other →
        listed entries value = listed others other := by
  refine ⟨fun a b => ?_, fun a b hletters => lower_eq_of_letters hletters,
    ⟨Alike.refl, Alike.symm, Alike.trans⟩, fun s => ?_,
    fun entries others value other hentries hvalue => ?_⟩
  · exact alike_iff.trans lower_trim_eq_iff.symm
  · exact alike_iff.mpr (folded_lower_trim s).symm
  · exact listed_eq (.replace hentries) hvalue

/-- A team with a sigma at the end of its name, among letters of either case. -/
theorem alike_equivalence_teams :
    alikeLetters (trim " TEAMΣ") (trim "teamΣ ") = true ∧
      lower (trim " TEAMΣ") = lower (trim "teamΣ ") ∧
      Alike " TEAMΣ" "teamς" ∧
      List.Forall₂ Alike [" TEAMΣ", "Web"] ["teamς", "web "] ∧
      Option.Rel Alike (some "TeamΣ") (some "TEAMς") ∧
      listed [" TEAMΣ", "Web"] (some "TeamΣ") = true ∧
      listed [" TEAMΣ", "Web"] (some "TeamΣ") = listed ["teamς", "web "] (some "TEAMς") := by
  obtain ⟨-, hletters, -, -, hlisted⟩ := alike_equivalence
  have hsame : alikeLetters (trim " TEAMΣ") (trim "teamΣ ") = true := by decide +kernel
  have hteam : Alike " TEAMΣ" "teamς" := by decide +kernel
  have hweb : Alike "Web" "web " := by decide +kernel
  have hvalue : Option.Rel Alike (some "TeamΣ") (some "TEAMς") := .some (by decide +kernel)
  have hentries : List.Forall₂ Alike [" TEAMΣ", "Web"] ["teamς", "web "] :=
    .cons hteam (.cons hweb .nil)
  exact ⟨hsame, hletters _ _ hsame, hteam, hentries, hvalue, by decide +kernel,
    hlisted _ _ _ _ hentries hvalue⟩

end LeadRouting.Text
