import LeadRouting.Proofs.Acceptance
import LeadRouting.Proofs.Passing
import LeadRouting.Proofs.Spelling

/-!
# Sources that are wanted and unwanted

A source that is wanted and unwanted is refused. The findings look for such sources by the case of
the letters `A` to `Z` alone, while a source is refused for being ALIKE an unwanted one, whatever
blanks are around it and whatever letters it has. This file says what the findings report rightly,
and what they overlook.

* `trimChars_smallLetters`, `Alike.of_letters` -- texts that are equal but for the case of `A` to
  `Z` are alike;
* `Plain` -- a text of ASCII without blanks around it; `alikeLetters_of_alike`: of such texts the
  converse holds;
* `SourceFilter.Refuses` -- the condition fails for every person with the source;
  `SourceFilter.refuses_iff`: of the wanted sources these are the ones that are alike an unwanted
  one;
* **`SourceFilter.overlap_reported_iff`** -- what is reported is refused, and what is refused is
  reported unless it is overlooked; between plain texts nothing is.
-/

namespace LeadRouting.Text

/-! ## 1. Letters and blanks -/

theorem isBlank_toLower (c : Char) : isBlank c.toLower = isBlank c :=
  apply_toLower isBlank (by decide) c

/-- Making letters small keeps the blanks where they are. -/
theorem trimChars_smallLetters (cs : List Char) :
    trimChars (smallLetters cs) = smallLetters (trimChars cs) := by
  have hblank : isBlank ∘ Char.toLower = isBlank := funext isBlank_toLower
  unfold trimChars trimStart trimEnd smallLetters
  rw [List.dropWhile_map, hblank, ← List.map_reverse, List.dropWhile_map, hblank, List.map_reverse]

/-- **What is equal but for the case of `A` to `Z` is alike.** -/
theorem Alike.of_letters {a b : String} (h : alikeLetters a b = true) : Alike a b := by
  have hletters : smallLetters a.toList = smallLetters b.toList := of_decide_eq_true h
  refine alike_iff.mpr ?_
  unfold folded
  rw [← lowerChars_smallLetters, ← trimChars_smallLetters, hletters, trimChars_smallLetters,
    lowerChars_smallLetters]

/-- A text of ASCII with no blanks around it. -/
structure Plain (s : String) : Prop where
  trimmed : trimChars s.toList = s.toList
  ascii : ∀ c ∈ s.toList, c.toNat < 0x80

theorem plain_iff {s : String} :
    Plain s ↔ trimChars s.toList = s.toList ∧
      (s.toList.all fun c => decide (c.toNat < 0x80)) = true := by
  rw [List.all_eq_true]
  simp only [decide_eq_true_eq]
  exact ⟨fun h => ⟨h.trimmed, h.ascii⟩, fun h => ⟨h.1, h.2⟩⟩

instance (s : String) : Decidable (Plain s) := decidable_of_iff _ plain_iff.symm

/-- In ASCII the lower case is that of the letters `A` to `Z`. -/
theorem lowerFrom_of_ascii (before : List Char) {cs : List Char} (h : ∀ c ∈ cs, c.toNat < 0x80) :
    lowerFrom before cs = smallLetters cs := by
  induction cs generalizing before with
  | nil => rfl
  | cons c rest ih =>
      obtain ⟨hc, hrest⟩ := List.forall_mem_cons.mp h
      have hsigma : c ≠ 'Σ' := by
        rintro rfl
        exact absurd hc (by decide)
      have hdotted : c ≠ 'İ' := by
        rintro rfl
        exact absurd hc (by decide)
      rw [lowerFrom, if_neg hsigma, ih (c :: before) hrest, lowerChar, if_neg hdotted, lowerLetter,
        if_pos hc]
      rfl

theorem folded_of_plain {s : String} (h : Plain s) : folded s = smallLetters s.toList := by
  unfold folded
  rw [h.trimmed]
  exact lowerFrom_of_ascii [] h.ascii

/-- **Plain texts that are alike are equal but for the case of `A` to `Z`.** -/
theorem alikeLetters_of_alike {a b : String} (ha : Plain a) (hb : Plain b) (h : Alike a b) :
    alikeLetters a b = true := by
  have hfolded := h.folded_eq
  rw [folded_of_plain ha, folded_of_plain hb] at hfolded
  exact decide_eq_true hfolded

end LeadRouting.Text

namespace LeadRouting.SourceFilter

open Text

/-! ## 2. Wanted sources that are refused -/

/-- The condition fails for every person with the source. -/
def Refuses (f : SourceFilter) (s : String) : Prop :=
  ∀ p : Person, p.source = some s → (f.failure? p).isSome = true

/-- Some wanted source is alike an unwanted one, and none is so but for the case of `A` to `Z`. -/
def Overlooks (f : SourceFilter) : Prop :=
  (∃ s ∈ f.included, ∃ e ∈ f.excluded, Alike e s) ∧
    ∀ s ∈ f.included, ∀ e ∈ f.excluded, alikeLetters e s = false

section Filter

variable {f : SourceFilter} {s : String}

/-- A wanted source passes where no unwanted one is alike it. -/
theorem failure?_eq_none_iff {p : Person} (hs : s ∈ f.included) (hp : p.source = some s) :
    f.failure? p = none ↔ ∀ e ∈ f.excluded, ¬ Alike e s := by
  have hlisted : (f.included.any fun e => alike e s) = true :=
    List.any_eq_true.mpr ⟨s, hs, Alike.refl s⟩
  rw [← Option.isNone_iff_eq_none, failure?_isNone, hp, listed_some, listed_some, hlisted,
    Bool.or_true, Bool.true_and, Bool.not_eq_true', List.any_eq_false]
  rfl

/-- **A wanted source is refused for being alike an unwanted one.** -/
theorem refuses_iff (hs : s ∈ f.included) : f.Refuses s ↔ ∃ e ∈ f.excluded, Alike e s := by
  constructor
  · intro h
    have hfails := h { Person.unknown with source := some s } rfl
    by_contra hnone
    have hpasses := (failure?_eq_none_iff (p := { Person.unknown with source := some s }) hs rfl).mpr
      fun e he halike => hnone ⟨e, he, halike⟩
    rw [hpasses] at hfails
    cases hfails
  · rintro ⟨e, he, halike⟩ p hp
    rw [Option.isSome_iff_ne_none]
    exact fun hpasses => (failure?_eq_none_iff hs hp).mp hpasses e he halike

/-- A source is reported for being an unwanted one but for the case of `A` to `Z`. -/
theorem findings_ne_nil_iff (source : String) (f : SourceFilter) :
    f.findings source ≠ [] ↔ ∃ s ∈ f.included, ∃ e ∈ f.excluded, alikeLetters e s = true := by
  rw [Ne, eq_nil_iff_harmless, warned_eq, harmless_iff]
  unfold Sound
  simp

/-- Between plain texts nothing is overlooked. -/
theorem not_overlooks_of_plain (h : ∀ s ∈ f.included ++ f.excluded, Plain s) : ¬ f.Overlooks := by
  rintro ⟨⟨s, hs, e, he, halike⟩, hletters⟩
  have hsame := alikeLetters_of_alike (h e (List.mem_append_right _ he))
    (h s (List.mem_append_left _ hs)) halike
  rw [hletters s hs e he] at hsame
  cases hsame

/-- A condition in a set that may be used lets its wanted sources pass, unless it overlooks one. -/
theorem Sound.passes_iff (h : f.Sound) :
    (∀ s ∈ f.included, ∀ p : Person, p.source = some s → f.failure? p = none) ↔
      ¬ f.Overlooks := by
  constructor
  · rintro hpasses ⟨⟨s, hs, e, he, halike⟩, -⟩
    have hnone := hpasses s hs { Person.unknown with source := some s } rfl
    exact (failure?_eq_none_iff hs rfl).mp hnone e he halike
  · intro hclear s hs p hp
    exact (failure?_eq_none_iff hs hp).mpr fun e he halike => hclear ⟨⟨s, hs, e, he, halike⟩, h⟩

end Filter

/-- **Overlaps are reported rightly, and all of them but the ones that are overlooked.** A
    condition is reported exactly where a wanted source is refused, unless it overlooks one; what is
    reported is always refused, and between plain texts nothing is overlooked. In a set that may be
    used every wanted source passes, unless the condition overlooks one. -/
theorem overlap_reported_iff [Zones] (source : String) (f : SourceFilter) :
    ((f.findings source ≠ [] ↔ ∃ s ∈ f.included, f.Refuses s) ↔ ¬ f.Overlooks) ∧
    (f.findings source ≠ [] → ∃ s ∈ f.included, f.Refuses s) ∧
    ((∀ s ∈ f.included ++ f.excluded, Plain s) → ¬ f.Overlooks) ∧
    ∀ stage strict s s' c, RuleSet.validated stage strict s = .ok s' → s.Asks c →
      c.sources = some f →
      ((∀ w ∈ f.included, ∀ p : Person, p.source = some w → f.failure? p = none) ↔
        ¬ f.Overlooks) := by
  have hrefused : (∃ s ∈ f.included, f.Refuses s) ↔
      ∃ s ∈ f.included, ∃ e ∈ f.excluded, Alike e s :=
    exists_congr fun s => and_congr_right refuses_iff
  have hright : f.findings source ≠ [] → ∃ s ∈ f.included, f.Refuses s := by
    rw [findings_ne_nil_iff, hrefused]
    rintro ⟨s, hs, e, he, hletters⟩
    exact ⟨s, hs, e, he, .of_letters hletters⟩
  refine ⟨⟨?_, fun hclear => ⟨hright, ?_⟩⟩, hright, not_overlooks_of_plain, ?_⟩
  · rintro hagree ⟨halike, hletters⟩
    obtain ⟨s, hs, e, he, hsame⟩ :=
      (findings_ne_nil_iff source f).mp (hagree.mpr (hrefused.mpr halike))
    rw [hletters s hs e he] at hsame
    cases hsame
  · rw [findings_ne_nil_iff, hrefused]
    intro halike
    by_contra hnone
    refine hclear ⟨halike, fun s hs e he => Bool.eq_false_iff.mpr fun hsame => ?_⟩
    exact hnone ⟨s, hs, e, he, hsame⟩
  · intro stage strict s s' c hvalidated hasks hsources
    exact ((RuleSet.sound_of_validated hvalidated hasks).sources f hsources).passes_iff

end LeadRouting.SourceFilter

namespace LeadRouting

/-! ## 3. Sources from the web -/

namespace Example

/-- The conditions with one on the source and nothing else. -/
def onSources (f : SourceFilter) : Conditions := { Conditions.none with sources := some f }

/-- A blank makes the wanted source another text than the unwanted one. -/
def blanked : SourceFilter := ⟨["web "], ["web"]⟩

/-- The two differ in the case of a letter that does not lie between `A` and `Z`. -/
def accented : SourceFilter := ⟨["CAFÉ"], ["café"]⟩

end Example

namespace SourceFilter

open Text Example

/-- A set that wants leads from the web and none from the phone may be used, and lets the web
    pass. -/
theorem web_reported_iff :
    (∀ s ∈ ["Web"] ++ ["phone"], Plain s) ∧
      (asking (onSources ⟨["Web"], ["phone"]⟩)).validated "rules.yaml" true =
        .ok (asking (onSources ⟨["Web"], ["phone"]⟩)) ∧
      ∀ s ∈ ["Web"], ∀ p : Person, p.source = some s →
        failure? ⟨["Web"], ["phone"]⟩ p = none := by
  obtain ⟨-, -, hplain, hpasses⟩ := overlap_reported_iff "east" ⟨["Web"], ["phone"]⟩
  have htexts : ∀ s ∈ ["Web"] ++ ["phone"], Plain s := by decide
  have hvalidated : (asking (onSources ⟨["Web"], ["phone"]⟩)).validated "rules.yaml" true =
      .ok (asking (onSources ⟨["Web"], ["phone"]⟩)) := rfl
  exact ⟨htexts, hvalidated,
    (hpasses "rules.yaml" true _ _ _ hvalidated (asks_asking _) rfl).mpr (hplain htexts)⟩

/-- What is alike an unwanted source and is not reported breaks the agreement. -/
theorem not_reported_iff {source : String} {f : SourceFilter} {s : String} (hs : s ∈ f.included)
    (hrefused : f.Refuses s) (hnone : f.findings source = []) :
    ¬ (f.findings source ≠ [] ↔ ∃ s ∈ f.included, f.Refuses s) :=
  fun h => h.mpr ⟨s, hs, hrefused⟩ hnone

/-- **Blanks around a source and letters beyond `Z` are overlooked**: sets that want and refuse the
    same source may be used. -/
theorem overlap_unreported :
    (asking (onSources blanked)).validated "rules.yaml" true = .ok (asking (onSources blanked)) ∧
      blanked.Refuses "web " ∧
      ¬ (blanked.findings "east" ≠ [] ↔ ∃ s ∈ blanked.included, blanked.Refuses s) ∧
      (asking (onSources accented)).validated "rules.yaml" true =
        .ok (asking (onSources accented)) ∧
      accented.Refuses "CAFÉ" ∧
      ¬ (accented.findings "east" ≠ [] ↔ ∃ s ∈ accented.included, accented.Refuses s) := by
  have hblank : blanked.Refuses "web " :=
    (refuses_iff List.mem_cons_self).mpr ⟨"web", List.mem_cons_self, by decide +kernel⟩
  have haccent : accented.Refuses "CAFÉ" :=
    (refuses_iff List.mem_cons_self).mpr ⟨"café", List.mem_cons_self, by decide +kernel⟩
  exact ⟨rfl, hblank, not_reported_iff List.mem_cons_self hblank rfl,
    rfl, haccent, not_reported_iff List.mem_cons_self haccent rfl⟩

end SourceFilter

end LeadRouting
