import LeadRouting.Proofs.Cycle
import LeadRouting.Proofs.Run

/-!
# The turns, call by call

Whoever holds a rotation that takes turns can ask it for a turn or reset it, in any order and with
any lists. What it remembers cannot be seen; its answers can. This file says what a call is answered
in terms of the calls and answers BEFORE it.

* `Call`, `Turns.calls` -- a call, and many of them one after another, with their answers;
* `latest? team past` -- the most recent id that was answered for a team since the last reset, read
  off the answers;
* `recalls_call`, `recalls_calls` -- **what is remembered of a team is its latest answer**: one call
  keeps that, and so does every run of calls;
* `calls_concerning` -- the calls that concern a team are answered as if there were no others;
* `Turns.Answers` -- the SPECIFICATION of one answer, and `next_answers`: every answer meets it;
* **`turns_answer`** -- the three together, from a fresh rotation and for every sequence of calls.
-/

namespace LeadRouting

/-! ## 1. Calls and answers -/

/-- What can be asked of a rotation that takes turns. -/
inductive Call where
  | next (offer : Offer)
  | reset
  deriving DecidableEq

/-- The call concerns a team: it asks for a turn of the team, or it is a reset. -/
def Call.concerns (team : String) : Call → Bool
  | .next o => o.teamId = team
  | .reset => true

/-- A call with its answer. -/
structure Answered where
  call : Call
  answer : Option String
  deriving DecidableEq

/-- The id that was answered for a team. -/
def Answered.idFor? (team : String) : Answered → Option String
  | ⟨.next o, answer⟩ => if o.teamId = team then answer else none
  | ⟨.reset, _⟩ => none

/-- **The most recent id that was answered for a team since the last reset.** -/
def latest? (team : String) (past : List Answered) : Option String :=
  (past.reverse.takeWhile fun x => x.call ≠ .reset).findSome? (Answered.idFor? team)

@[simp] theorem latest?_reset (team : String) (past : List Answered) (answer : Option String) :
    latest? team (past ++ [⟨.reset, answer⟩]) = none := by
  simp [latest?]

/-- An answer for the team is the latest one; a call without one changes nothing. -/
theorem latest?_next (team : String) (past : List Answered) (o : Offer) (answer : Option String) :
    latest? team (past ++ [⟨.next o, answer⟩]) =
      (if o.teamId = team then answer else none).or (latest? team past) := by
  unfold latest?
  rw [List.reverse_append, List.reverse_singleton, List.singleton_append,
    List.takeWhile_cons_of_pos (by simp), List.findSome?_cons, Answered.idFor?]
  cases (if o.teamId = team then answer else none) with
  | none => rfl
  | some id => rfl

namespace Turns

/-- The answer to a call, and what is remembered then. -/
def call (t : Turns) : Call → Option String × Turns
  | .next o => t.next o
  | .reset => (none, t.reset)

/-- Calls one after another with their answers, and what is remembered then. -/
def calls (t : Turns) : List Call → List Answered × Turns
  | [] => ([], t)
  | c :: rest =>
    let others := calls (t.call c).2 rest
    (⟨c, (t.call c).1⟩ :: others.1, others.2)

theorem calls_append (t : Turns) (earlier later : List Call) :
    t.calls (earlier ++ later) =
      ((t.calls earlier).1 ++ ((t.calls earlier).2.calls later).1,
        ((t.calls earlier).2.calls later).2) := by
  induction earlier generalizing t with
  | nil => rfl
  | cons c rest ih => simp only [List.cons_append, calls, ih]

/-! ## 2. What is remembered -/

theorem next_answer (t : Turns) (o : Offer) : (t.next o).1 = after o.tied (t.last o.teamId) := by
  unfold next
  split
  · rename_i id h
    exact h.symm
  · rename_i h
    exact h.symm

/-- What is remembered of the team that asked: the answer, or where there is none what was
    remembered before. -/
theorem next_last_self (t : Turns) (o : Offer) :
    (t.next o).2.last o.teamId = (t.next o).1.or (t.last o.teamId) := by
  unfold next
  split
  · exact record_last_self t o.teamId _
  · rfl

/-- **One call: what is remembered of a team is its latest answer.** -/
theorem recalls_call {t : Turns} {past : List Answered} (team : String)
    (h : t.last team = latest? team past) (c : Call) :
    (t.call c).2.last team = latest? team (past ++ [⟨c, (t.call c).1⟩]) := by
  cases c with
  | reset => exact (latest?_reset team past _).symm
  | next o =>
      show (t.next o).2.last team = latest? team (past ++ [⟨.next o, (t.next o).1⟩])
      rw [latest?_next]
      by_cases hteam : o.teamId = team
      · subst hteam
        rw [if_pos rfl, next_last_self, h]
      · rw [if_neg hteam, Option.none_or, next_last_of_ne t fun e => hteam e.symm, h]

/-- **A run of calls: what is remembered of a team is its latest answer.** -/
theorem recalls_calls {t : Turns} {past : List Answered} (team : String)
    (h : t.last team = latest? team past) (cs : List Call) :
    (t.calls cs).2.last team = latest? team (past ++ (t.calls cs).1) := by
  induction cs generalizing t past with
  | nil =>
      rw [calls, List.append_nil]
      exact h
  | cons c rest ih =>
      have hrest := ih (recalls_call team h c)
      rw [List.append_assoc, List.singleton_append] at hrest
      exact hrest

/-! ## 3. One team among others -/

/-- A call that does not concern a team leaves its last turn as it is. -/
theorem call_last_of_not_concerns {team : String} {c : Call} (h : c.concerns team = false)
    (t : Turns) : (t.call c).2.last team = t.last team := by
  cases c with
  | reset => cases h
  | next o => exact next_last_of_ne t fun e => of_decide_eq_false h e.symm

/-- A call that concerns a team goes by what is remembered of that team only. -/
theorem call_congr {team : String} {c : Call} (h : c.concerns team = true) {t t' : Turns}
    (hlast : t.last team = t'.last team) :
    (t.call c).1 = (t'.call c).1 ∧ (t.call c).2.last team = (t'.call c).2.last team := by
  cases c with
  | reset => exact ⟨rfl, rfl⟩
  | next o =>
      obtain rfl : o.teamId = team := of_decide_eq_true h
      have hanswer : (t.next o).1 = (t'.next o).1 := by rw [next_answer, next_answer, hlast]
      refine ⟨hanswer, ?_⟩
      show (t.next o).2.last o.teamId = (t'.next o).2.last o.teamId
      rw [next_last_self, next_last_self, hanswer, hlast]

/-- **The calls that concern a team are answered as if there were no others.** -/
theorem calls_concerning {team : String} {t t' : Turns} (h : t.last team = t'.last team)
    (cs : List Call) : (t.calls cs).1.filter (fun x => x.call.concerns team) =
      (t'.calls (cs.filter (Call.concerns team))).1 := by
  induction cs generalizing t t' with
  | nil => rfl
  | cons c rest ih =>
      cases hc : c.concerns team with
      | true =>
          obtain ⟨hanswer, hlast⟩ := call_congr hc h
          simp only [calls, List.filter_cons, hc, if_true, hanswer, ih hlast]
      | false =>
          have hlast := call_last_of_not_concerns hc t
          simp only [calls, List.filter_cons, hc, Bool.false_eq_true, if_false, ih (hlast.trans h)]

/-! ## 4. One answer -/

/-- **What is answered to those who tie**, after other calls were answered; `t'` is remembered then
    in place of `t`. -/
structure Answers (past : List Answered) (t : Turns) (o : Offer) (answer : Option String)
    (t' : Turns) : Prop where
  nobody : o.tied = [] → answer = none ∧ t' = t
  somebody : o.tied ≠ [] → ∃ id ∈ o.tied, answer = some id
  another : o.tied.Nodup → 2 ≤ o.tied.length →
    ∀ id, latest? o.teamId past = some id → answer ≠ some id
  following : o.tied.Nodup → ∀ (i : Nat) (hi : i < o.tied.length),
    latest? o.teamId past = some o.tied[i] → answer = o.tied[(i + 1) % o.tied.length]?
  starting : (∀ id, latest? o.teamId past = some id → id ∉ o.tied) → answer = o.tied.head?

/-- Who is not among those who tie is not followed by anybody: the first one is next. -/
theorem after_of_not_mem {tied : List String} {last : Option String}
    (h : ∀ id, last = some id → id ∉ tied) : after tied last = tied.head? := by
  have hplace : last.bind tied.idxOf? = none := by
    cases last with
    | none => rfl
    | some id => exact List.idxOf?_eq_none_iff.mpr (h id rfl)
  unfold after
  rw [hplace]

/-- **Where there are two to choose from the turn goes on** to another one. -/
theorem after_ne_last {tied : List String} (hnodup : tied.Nodup) (hlen : 2 ≤ tied.length)
    {id : String} : after tied (some id) ≠ some id := by
  intro hsame
  obtain ⟨i, hi, rfl⟩ := List.getElem_of_mem (mem_of_after hsame)
  rw [after_getElem hnodup hi] at hsame
  obtain ⟨hlt, helem⟩ := List.getElem?_eq_some_iff.mp hsame
  have hplace : (i + 1) % tied.length = i := (List.Nodup.getElem_inj_iff hnodup).mp helem
  -- the place behind `i` is `i` itself only in a list of one
  by_cases hlast : i + 1 < tied.length
  · rw [Nat.mod_eq_of_lt hlast] at hplace
    omega
  · have hwrap : i + 1 = tied.length := by omega
    rw [hwrap, Nat.mod_self] at hplace
    omega

/-- **Every answer is as it should be**, as soon as the latest answer is what is remembered. -/
theorem next_answers {t : Turns} {past : List Answered} (o : Offer)
    (h : t.last o.teamId = latest? o.teamId past) :
    Answers past t o (t.next o).1 (t.next o).2 := by
  have hanswer : (t.next o).1 = after o.tied (latest? o.teamId past) := by rw [next_answer, h]
  refine ⟨fun hnil => ?_, fun hne => ?_, fun hnodup hlen id hlatest => ?_,
    fun hnodup i hi hlatest => ?_, fun hnone => ?_⟩
  · unfold next
    rw [hnil, after_nil]
    exact ⟨rfl, rfl⟩
  · obtain ⟨id, hid⟩ := exists_after_eq_some hne (latest? o.teamId past)
    exact ⟨id, mem_of_after hid, hanswer.trans hid⟩
  · rw [hanswer, hlatest]
    exact after_ne_last hnodup hlen
  · rw [hanswer, hlatest]
    exact after_getElem hnodup hi
  · rw [hanswer]
    exact after_of_not_mem hnone

/-! ## 5. Every sequence of calls -/

/-- **What a fresh rotation answers, through any calls.** After some calls, what is remembered of a
    team is its latest answer; the calls that concern the team have the answers that they have
    without the others; and a turn that is asked for then has an answer that meets the
    specification, whatever comes later. -/
theorem turns_answer (earlier : List Call) :
    (∀ team, (empty.calls earlier).2.last team = latest? team (empty.calls earlier).1) ∧
    (∀ team, (empty.calls earlier).1.filter (fun x => x.call.concerns team) =
      (empty.calls (earlier.filter (Call.concerns team))).1) ∧
    ∀ (o : Offer) (later : List Call), ∃ answer rest,
      (empty.calls (earlier ++ .next o :: later)).1 =
        (empty.calls earlier).1 ++ ⟨.next o, answer⟩ :: rest ∧
      Answers (empty.calls earlier).1 (empty.calls earlier).2 o answer
        (empty.calls (earlier ++ [.next o])).2 := by
  have hrecalls : ∀ team, (empty.calls earlier).2.last team =
      latest? team (empty.calls earlier).1 := by
    intro team
    have hfresh : empty.last team = latest? team [] := rfl
    exact recalls_calls team hfresh earlier
  refine ⟨hrecalls, fun team => calls_concerning rfl earlier, fun o later => ?_⟩
  have hafter : (empty.calls (earlier ++ [.next o])).2 = ((empty.calls earlier).2.next o).2 := by
    rw [calls_append]
    rfl
  refine ⟨((empty.calls earlier).2.next o).1,
    (((empty.calls earlier).2.next o).2.calls later).1, ?_, ?_⟩
  · rw [calls_append]
    rfl
  · rw [hafter]
    exact next_answers o (hrecalls o.teamId)

/-- Another team's turn comes between, then the list is another one: the turn goes on behind the
    latest answer, and after a reset it starts again. -/
theorem turns_answer_three :
    let earlier : List Call := [.next ⟨"east", ["ann", "bob"]⟩, .next ⟨"west", ["cleo"]⟩]
    let past : List Answered := [⟨.next ⟨"east", ["ann", "bob"]⟩, some "ann"⟩,
      ⟨.next ⟨"west", ["cleo"]⟩, some "cleo"⟩]
    let next : Call := .next ⟨"east", ["dan", "ann", "eve"]⟩
    (empty.calls earlier).1 = past ∧ latest? "east" past = some "ann" ∧
      latest? "east" (past ++ [⟨.reset, none⟩]) = none ∧
      ∃ rest, (empty.calls (earlier ++ [next])).1 = past ++ ⟨next, some "eve"⟩ :: rest := by
  intro earlier past next
  have hpast : (empty.calls earlier).1 = past := by decide
  have hlatest : latest? "east" past = some "ann" := by decide
  obtain ⟨-, -, hanswers⟩ := turns_answer earlier
  obtain ⟨answer, rest, hcalls, hanswer⟩ := hanswers ⟨"east", ["dan", "ann", "eve"]⟩ []
  rw [hpast] at hcalls hanswer
  have heve : answer = some "eve" := hanswer.following (by decide) 1 (by decide) hlatest
  rw [heve] at hcalls
  exact ⟨hpast, hlatest, latest?_reset "east" past none, rest, hcalls⟩

end Turns

end LeadRouting
