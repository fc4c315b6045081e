import LeadRouting.Proofs.Opposites

/-!
# Texts that occur in a text

Whether a text contains another one is found out in lower case: both are lowered as a whole, then
one is looked for in the other. The lower case of a piece is a piece of the lower case, but for one
letter: a capital sigma is lowered by what stands around it. This file says which texts that
concerns, and that containment is what one expects for all others.

* `occursIn_iff` -- the search finds every unbroken piece and nothing else;
* `lowerIn front back cs` -- the lower case of a piece, given whether a letter with case is met in
  front of it and behind it; `lowerIn_append` takes a text apart, `lowerChars_eq` starts it;
* `Unsettled` -- **a text with a capital sigma that what stands around the text decides about**;
  `lowerIn_of_settled`: every other text has one lower case wherever it stands, and
  `Unsettled.exists_loss`: this one has not;
* `lowerChars_trimChars` -- blanks around a text are around its lower case;
* **`Operator.contains_every_occurrence_iff`** -- a text is found wherever it occurs exactly if it
  is settled, and what a text contains is contained in all that it is a piece of exactly if it is.
-/

namespace LeadRouting.Text

/-! ## 1. The search -/

theorem occursIn_iff {needle hay : List Char} : occursIn needle hay = true ↔ needle <:+: hay := by
  induction hay with
  | nil => rw [occursIn, List.isEmpty_iff, List.infix_nil]
  | cons c rest ih =>
      rw [occursIn, Bool.or_eq_true, List.isPrefixOf_iff_prefix, ih, List.infix_cons_iff]

/-! ## 2. What is met around a piece -/

/-- Whether the nearest character that is not looked through has case; `behind` tells it where all
    characters are looked through. -/
def met (behind : Bool) : List Char → Bool
  | [] => behind
  | c :: rest => if isCaseIgnorable c then met behind rest else isCased c

theorem meetsCased_eq_met (cs : List Char) : meetsCased cs = met false cs := by
  unfold meetsCased
  induction cs with
  | nil => rfl
  | cons c rest ih =>
      rw [List.dropWhile_cons, met]
      split
      · exact ih
      · rfl

theorem met_append (behind : Bool) (cs ds : List Char) :
    met behind (cs ++ ds) = met (met behind ds) cs := by
  induction cs with
  | nil => rfl
  | cons c rest ih => rw [List.cons_append, met, met, ih]

theorem met_of_all {cs : List Char} (h : cs.all isCaseIgnorable = true) (behind : Bool) :
    met behind cs = behind := by
  induction cs with
  | nil => rfl
  | cons c rest ih =>
      obtain ⟨hc, hrest⟩ := Bool.and_eq_true_iff.mp h
      rw [met, if_pos hc, ih hrest]

/-- As soon as one character is not looked through nothing is met behind the characters. -/
theorem met_of_not_all {cs : List Char} (h : cs.all isCaseIgnorable = false) (behind : Bool) :
    met behind cs = met false cs := by
  induction cs with
  | nil => cases h
  | cons c rest ih =>
      rw [met, met]
      split
      · rename_i hc
        rw [List.all_cons, hc, Bool.true_and] at h
        exact ih h
      · rfl

/-! ## 3. The lower case of a piece -/

/-- **The lower case of a piece of a text**, given whether a letter with case is met in front of the
    piece and behind it. -/
def lowerIn (front back : Bool) : List Char → List Char
  | [] => []
  | c :: rest =>
    (if c = 'Σ' then [if front && !met back rest then 'ς' else 'σ'] else lowerChar c)
      ++ lowerIn (met front [c]) back rest

theorem lowerFrom_eq_lowerIn (before cs : List Char) :
    lowerFrom before cs = lowerIn (met false before) false cs := by
  induction cs generalizing before with
  | nil => rfl
  | cons c rest ih =>
      have hbefore : met false (c :: before) = met (met false before) [c] :=
        met_append false [c] before
      rw [lowerFrom, lowerIn, ih, hbefore, meetsCased_eq_met, meetsCased_eq_met]

/-- The lower case of a text is that of a piece with nothing around it. -/
theorem lowerChars_eq (cs : List Char) : lowerChars cs = lowerIn false false cs :=
  lowerFrom_eq_lowerIn [] cs

/-- **The lower case of two pieces**: the second one stands behind the first, and the first one in
    front of the second. -/
theorem lowerIn_append (front back : Bool) (cs ds : List Char) :
    lowerIn front back (cs ++ ds) =
      lowerIn front (met back ds) cs ++ lowerIn (met front cs.reverse) back ds := by
  induction cs generalizing front with
  | nil => rfl
  | cons c rest ih =>
      rw [List.cons_append, lowerIn, lowerIn, ih, met_append, List.reverse_cons, met_append,
        List.append_assoc]

/-- The lower case of a piece depends on what is around it only through its capital sigmas. -/
theorem lowerIn_congr {front back front' back' : Bool} {cs : List Char}
    (h : ∀ before after, cs = before ++ 'Σ' :: after →
      (met front before.reverse && !met back after) =
        (met front' before.reverse && !met back' after)) :
    lowerIn front back cs = lowerIn front' back' cs := by
  induction cs generalizing front front' with
  | nil => rfl
  | cons c rest ih =>
      have hrest : lowerIn (met front [c]) back rest = lowerIn (met front' [c]) back' rest := by
        refine ih fun before after hsplit => ?_
        have hc := h (c :: before) after (by rw [hsplit, List.cons_append])
        rwa [List.reverse_cons, met_append, met_append] at hc
      rw [lowerIn, lowerIn, hrest]
      by_cases hsigma : c = 'Σ'
      · have hc := h [] rest (by rw [hsigma, List.nil_append])
        rw [List.reverse_nil, met, met] at hc
        rw [hc]
      · rw [if_neg hsigma, if_neg hsigma]

theorem isCaseIgnorable_sigma : isCaseIgnorable 'Σ' = false := by decide +kernel

/-- A capital sigma is a letter with case, so that it is met. -/
theorem met_sigma (behind : Bool) (rest : List Char) : met behind ('Σ' :: rest) = true := by
  have hcased : isCased 'Σ' = true := by decide +kernel
  rw [met, if_neg (Bool.eq_false_iff.mp isCaseIgnorable_sigma), hcased]

/-- Characters that are looked through have one lower case wherever they stand. -/
theorem lowerIn_of_all {cs : List Char} (h : cs.all isCaseIgnorable = true)
    (front back front' back' : Bool) : lowerIn front back cs = lowerIn front' back' cs := by
  refine lowerIn_congr fun before after hsplit => ?_
  have hsigma := List.all_eq_true.mp h 'Σ' (hsplit ▸ List.mem_append_right _ List.mem_cons_self)
  rw [isCaseIgnorable_sigma] at hsigma
  cases hsigma

/-! ## 4. Sigmas at the edge -/

/-- **A text with a capital sigma that what stands around the text decides about**: one that ends a
    word unless the word goes on behind the text, or one that no letter with case comes before
    unless it does so in front of the text. -/
inductive Unsettled : List Char → Prop where
  | ending (before after : List Char) (hbefore : meetsCased before.reverse = true)
      (hafter : after.all isCaseIgnorable = true) : Unsettled (before ++ 'Σ' :: after)
  | beginning (before after : List Char) (hbefore : before.all isCaseIgnorable = true)
      (hafter : meetsCased after = false) : Unsettled (before ++ 'Σ' :: after)

theorem Unsettled.sigma_mem {cs : List Char} (h : Unsettled cs) : 'Σ' ∈ cs := by
  cases h with
  | ending before after => exact List.mem_append_right _ List.mem_cons_self
  | beginning before after => exact List.mem_append_right _ List.mem_cons_self

/-- **A settled text has one lower case wherever it stands.** -/
theorem lowerIn_of_settled {cs : List Char} (h : ¬ Unsettled cs) (front back : Bool) :
    lowerIn front back cs = lowerChars cs := by
  rw [lowerChars_eq]
  refine lowerIn_congr fun before after hsplit => ?_
  subst hsplit
  have hreverse : before.reverse.all isCaseIgnorable = before.all isCaseIgnorable :=
    List.all_reverse
  cases hbefore : before.all isCaseIgnorable with
  | true =>
      have hafter : met false after = true := by
        by_contra hnone
        rw [Bool.not_eq_true, ← meetsCased_eq_met] at hnone
        exact h (.beginning before after hbefore hnone)
      have hnot : after.all isCaseIgnorable = false := by
        by_contra hall
        rw [met_of_all (Bool.not_eq_false _ ▸ hall)] at hafter
        cases hafter
      rw [met_of_not_all hnot, hafter, Bool.not_true, Bool.and_false, Bool.and_false]
  | false =>
      rw [hbefore] at hreverse
      rw [met_of_not_all hreverse front]
      cases hafter : after.all isCaseIgnorable with
      | false => rw [met_of_not_all hafter back]
      | true =>
          have hnone : met false before.reverse = false := by
            by_contra hmet
            rw [Bool.not_eq_false, ← meetsCased_eq_met] at hmet
            exact h (.ending before after hmet hafter)
          rw [hnone, Bool.false_and, Bool.false_and]

theorem infix_lowerChars {cs : List Char} (front back : List Char) :
    lowerIn (met false front.reverse) (met false back) cs <:+: lowerChars (front ++ cs ++ back) := by
  rw [lowerChars_eq, lowerIn_append, lowerIn_append]
  exact List.infix_append _ _ _

/-- **The lower case of a settled piece is a piece of the lower case.** -/
theorem lowerChars_occurs {cs ds : List Char} (hcs : ¬ Unsettled cs) (h : cs <:+: ds) :
    lowerChars cs <:+: lowerChars ds := by
  obtain ⟨front, back, rfl⟩ := h
  rw [← lowerIn_of_settled hcs (met false front.reverse) (met false back)]
  exact infix_lowerChars front back

/-- A capital sigma is met from both sides, and parts what stands around it. -/
theorem lowerIn_sigma (front back : Bool) (before after : List Char) :
    lowerIn front back (before ++ 'Σ' :: after) = lowerIn front true before ++
      (if met front before.reverse && !met back after then 'ς' else 'σ') ::
        lowerIn true back after := by
  rw [lowerIn_append, met_sigma, lowerIn, if_pos rfl, met_sigma, List.singleton_append]

/-- **An unsettled text loses one of its sigmas beside another letter.** -/
theorem Unsettled.exists_loss {cs : List Char} (h : Unsettled cs) :
    ∃ front back, ∃ sigma ∈ ['σ', 'ς'],
      (lowerChars (front ++ cs ++ back)).count sigma < (lowerChars cs).count sigma := by
  have hmet : met false ['a'] = true := by decide +kernel
  have hlower : ∀ front back, lowerIn front back ['a'] = ['a'] := by decide +kernel
  cases h with
  | ending before after hbefore hafter =>
      rw [meetsCased_eq_met] at hbefore
      have halone : lowerChars (before ++ 'Σ' :: after) =
          lowerIn false true before ++ 'ς' :: lowerIn true false after := by
        rw [lowerChars_eq, lowerIn_sigma, hbefore, met_of_all hafter]
        rfl
      have hbeside : lowerChars ([] ++ (before ++ 'Σ' :: after) ++ ['a']) =
          (lowerIn false true before ++ 'σ' :: lowerIn true false after) ++ ['a'] := by
        rw [List.nil_append, lowerChars_eq, lowerIn_append, hmet, lowerIn_sigma, hbefore,
          met_of_all hafter, lowerIn_of_all hafter true true true false, hlower]
        rfl
      refine ⟨[], ['a'], 'ς', List.mem_cons_of_mem _ List.mem_cons_self, ?_⟩
      rw [halone, hbeside]
      simp
  | beginning before after hbefore hafter =>
      rw [meetsCased_eq_met] at hafter
      have hreverse : before.reverse.all isCaseIgnorable = true :=
        List.all_reverse.trans hbefore
      have halone : lowerChars (before ++ 'Σ' :: after) =
          lowerIn false true before ++ 'σ' :: lowerIn true false after := by
        rw [lowerChars_eq, lowerIn_sigma, met_of_all hreverse]
        rfl
      have hbeside : lowerChars (['a'] ++ (before ++ 'Σ' :: after) ++ []) =
          ['a'] ++ (lowerIn false true before ++ 'ς' :: lowerIn true false after) := by
        rw [List.append_nil, lowerChars_eq, lowerIn_append, hlower, List.reverse_singleton, hmet,
          lowerIn_sigma, met_of_all hreverse, hafter, lowerIn_of_all hbefore true true false true]
        rfl
      refine ⟨['a'], [], 'σ', List.mem_cons_self, ?_⟩
      rw [halone, hbeside]
      simp

/-! ## 5. Blanks around a text -/

/-- A blank has no case, and is its own lower case. -/
theorem lowerChar_of_isBlank {c : Char} (h : isBlank c = true) :
    isCased c = false ∧ lowerChar c = [c] ∧ c ≠ 'Σ' ∧ c ∉ ['σ', 'ς'] := by
  have hcodes : ∀ n ∈ [0x9, 0xA, 0xB, 0xC, 0xD, 0x20, 0x85, 0xA0, 0x1680, 0x2000, 0x2001, 0x2002,
      0x2003, 0x2004, 0x2005, 0x2006, 0x2007, 0x2008, 0x2009, 0x200A, 0x2028, 0x2029, 0x202F, 0x205F,
      0x3000], isCased (Char.ofNat n) = false ∧ lowerChar (Char.ofNat n) = [Char.ofNat n] ∧
        Char.ofNat n ≠ 'Σ' ∧ Char.ofNat n ∉ ['σ', 'ς'] := by decide +kernel
  have hcode := hcodes c.toNat (by
    unfold isBlank at h
    simp at h ⊢
    omega)
  rwa [Char.ofNat_toNat] at hcode

/-- No letter with case is met in blanks. -/
theorem met_of_blanks {cs : List Char} (h : ∀ c ∈ cs, isBlank c = true) : met false cs = false := by
  induction cs with
  | nil => rfl
  | cons c rest ih =>
      obtain ⟨hc, hrest⟩ := List.forall_mem_cons.mp h
      rw [met]
      split
      · exact ih hrest
      · exact (lowerChar_of_isBlank hc).1

theorem lowerIn_of_blanks {cs : List Char} (h : ∀ c ∈ cs, isBlank c = true) (front back : Bool) :
    lowerIn front back cs = cs := by
  induction cs generalizing front with
  | nil => rfl
  | cons c rest ih =>
      obtain ⟨hc, hrest⟩ := List.forall_mem_cons.mp h
      obtain ⟨-, hlower, hsigma, -⟩ := lowerChar_of_isBlank hc
      rw [lowerIn, if_neg hsigma, hlower, ih hrest]
      rfl

/-- What is trimmed away is blanks at both ends. -/
theorem exists_trimmed (cs : List Char) : ∃ front back, cs = front ++ trimChars cs ++ back ∧
    (∀ c ∈ front, isBlank c = true) ∧ ∀ c ∈ back, isBlank c = true := by
  refine ⟨cs.takeWhile isBlank, ((trimStart cs).reverse.takeWhile isBlank).reverse, ?_,
    fun c hc => List.mem_takeWhile_imp hc,
    fun c hc => List.mem_takeWhile_imp (List.mem_reverse.mp hc)⟩
  have hback : trimChars cs ++ ((trimStart cs).reverse.takeWhile isBlank).reverse =
      trimStart cs := by
    unfold trimChars trimEnd
    rw [← List.reverse_append, List.takeWhile_append_dropWhile, List.reverse_reverse]
  rw [List.append_assoc, hback]
  exact List.takeWhile_append_dropWhile.symm

/-- **Blanks around a text are around its lower case**, and decide about no sigma. -/
theorem lowerChars_trimChars (cs : List Char) : ∃ front back,
    lowerChars cs = front ++ lowerChars (trimChars cs) ++ back ∧
      (∀ c ∈ front, isBlank c = true) ∧ ∀ c ∈ back, isBlank c = true := by
  obtain ⟨front, back, hsplit, hfront, hback⟩ := exists_trimmed cs
  refine ⟨front, back, ?_, hfront, hback⟩
  have hreverse : ∀ c ∈ front.reverse, isBlank c = true :=
    fun c hc => hfront c (List.mem_reverse.mp hc)
  conv_lhs => rw [hsplit]
  rw [lowerChars_eq, lowerChars_eq, lowerIn_append, lowerIn_append, lowerIn_of_blanks hfront,
    lowerIn_of_blanks hback, met_of_blanks hback, met_of_blanks hreverse]

/-- Trimming a text takes no sigma from its lower case. -/
theorem count_lowerChars_trimChars (cs : List Char) {sigma : Char} (h : sigma ∈ ['σ', 'ς']) :
    (lowerChars (trimChars cs)).count sigma = (lowerChars cs).count sigma := by
  obtain ⟨front, back, hlower, hfront, hback⟩ := lowerChars_trimChars cs
  have hnone : ∀ blanks : List Char, (∀ c ∈ blanks, isBlank c = true) → blanks.count sigma = 0 :=
    fun blanks hblanks => List.count_eq_zero.mpr fun hsigma =>
      (lowerChar_of_isBlank (hblanks sigma hsigma)).2.2.2 h
  rw [hlower, List.count_append, List.count_append, hnone front hfront, hnone back hback]
  omega

end LeadRouting.Text

namespace LeadRouting.Operator

open Text

/-! ## 6. Texts that contain texts -/

/-- A text contains another one where the lower case of the one, trimmed, is a piece of the lower
    case of the other. -/
theorem contains_holds_iff (h n : String) :
    holds .contains (some (.text h)) (.text n) = true ↔
      lowerChars (trimChars n.toList) <:+: lowerChars h.toList := by
  have hne : Json.text h ≠ .null := nofun
  rw [(contains_answers hne _).holds_iff]
  show some (occursIn (lowerChars (trimChars n.toList)) (lowerChars h.toList)) = some true ↔ _
  rw [Option.some_inj, occursIn_iff]

/-- Whatever text is asked for, exactly one of the two operators accepts. -/
theorem lacks_eq_false_of_contains {h n : String}
    (hcontains : holds .contains (some (.text h)) (.text n) = true) :
    holds .lacks (some (.text h)) (.text n) = false := by
  have hne : Json.text h ≠ .null := nofun
  have hone := (paired_of_ne_null hne (.text n)).searched (.text h n)
  unfold ExactlyOne at hone
  rw [hcontains] at hone
  exact Bool.eq_false_iff.mpr (Ne.symm hone)

/-- A text contains itself. -/
theorem contains_self (h : String) : holds .contains (some (.text h)) (.text h) = true := by
  obtain ⟨front, back, hlower, -, -⟩ := lowerChars_trimChars h.toList
  exact (contains_holds_iff h h).mpr ⟨front, back, hlower.symm⟩

/-- **A text is found wherever it occurs exactly if it is settled**, trimmed. -/
theorem contains_occurrences_iff (n : String) :
    (∀ h : String, trimChars n.toList <:+: h.toList →
        holds .contains (some (.text h)) (.text n) = true ∧
          holds .lacks (some (.text h)) (.text n) = false) ↔
      ¬ Unsettled (trimChars n.toList) := by
  constructor
  · intro hfound hunsettled
    obtain ⟨front, back, sigma, -, hloss⟩ := hunsettled.exists_loss
    have hin : trimChars n.toList <:+:
        (String.ofList (front ++ trimChars n.toList ++ back)).toList := by
      rw [String.toList_ofList]
      exact List.infix_append _ _ _
    have hpiece := (contains_holds_iff _ n).mp (hfound _ hin).1
    rw [String.toList_ofList] at hpiece
    -- a piece has no more sigmas than the whole
    exact absurd (hpiece.sublist.count_le sigma) (Nat.not_le_of_lt hloss)
  · intro hsettled h hin
    have hcontains := (contains_holds_iff h n).mpr (lowerChars_occurs hsettled hin)
    exact ⟨hcontains, lacks_eq_false_of_contains hcontains⟩

/-- **What a text contains is contained in all that it is a piece of exactly if it is settled.** -/
theorem contains_extensions_iff (h : String) :
    (∀ n front back : String, holds .contains (some (.text h)) (.text n) = true →
        holds .contains (some (.text (front ++ h ++ back))) (.text n) = true) ↔
      ¬ Unsettled h.toList := by
  constructor
  · intro hkept hunsettled
    -- the text itself is what gets lost
    obtain ⟨front, back, sigma, hsigma, hloss⟩ := hunsettled.exists_loss
    have hpiece := (contains_holds_iff _ h).mp
      (hkept h (String.ofList front) (String.ofList back) (contains_self h))
    rw [String.toList_append, String.toList_append, String.toList_ofList,
      String.toList_ofList] at hpiece
    rw [← count_lowerChars_trimChars h.toList hsigma] at hloss
    exact absurd (hpiece.sublist.count_le sigma) (Nat.not_le_of_lt hloss)
  · intro hsettled n front back hcontains
    have hin : h.toList <:+: (front ++ h ++ back).toList := by
      rw [String.toList_append, String.toList_append]
      exact List.infix_append _ _ _
    exact (contains_holds_iff _ n).mpr
      (((contains_holds_iff h n).mp hcontains).trans (lowerChars_occurs hsettled hin))

/-- **Containment is what one expects but for sigmas at the edge of a text.** A text is found
    wherever it occurs, and what a text contains is contained in all that it is a piece of, exactly
    where the text is settled; a text without a capital sigma always is. -/
theorem contains_every_occurrence_iff (h n : String) :
    ((∀ hay : String, trimChars n.toList <:+: hay.toList →
        holds .contains (some (.text hay)) (.text n) = true ∧
          holds .lacks (some (.text hay)) (.text n) = false) ↔
      ¬ Unsettled (trimChars n.toList)) ∧
    ((∀ needle front back : String, holds .contains (some (.text h)) (.text needle) = true →
        holds .contains (some (.text (front ++ h ++ back))) (.text needle) = true) ↔
      ¬ Unsettled h.toList) ∧
    ('Σ' ∉ n.toList → ¬ Unsettled (trimChars n.toList)) ∧
    ('Σ' ∉ h.toList → ¬ Unsettled h.toList) := by
  refine ⟨contains_occurrences_iff n, contains_extensions_iff h, fun hnone hunsettled => ?_,
    fun hnone hunsettled => hnone hunsettled.sigma_mem⟩
  obtain ⟨front, back, hsplit, -, -⟩ := exists_trimmed n.toList
  exact hnone (hsplit ▸ List.mem_append_left _ (List.mem_append_right _ hunsettled.sigma_mem))

/-- **A text that occurs is overlooked**: a word in capitals ends with a final sigma by itself, and
    with another one in a longer word. So the longer word contains less than the shorter one. -/
theorem capitals_overlooked :
    trimChars "ΟΔΟΣ".toList <:+: "ΟΔΟΣΑ".toList ∧
      holds .contains (some (.text "ΟΔΟΣΑ")) (.text "ΟΔΟΣ") = false ∧
      holds .lacks (some (.text "ΟΔΟΣΑ")) (.text "ΟΔΟΣ") = true ∧
      holds .contains (some (.text "ΟΔΟΣ")) (.text "ΟΔΟΣ") = true ∧
      holds .contains (some (.text ("" ++ "ΟΔΟΣ" ++ "Α"))) (.text "ΟΔΟΣ") = false := by
  decide +kernel

end LeadRouting.Operator
