import LeadRouting.Routing.Ranking

/-!
# Rotations

When several agents share the lead of a ranking, a rotation may say whose turn it is. It is offered
the team and the ids of all who tie, in the order of the rotation, and answers an id or nothing;
its state may change with every offer.

* The agent that is answered moves to the front and **the others keep their order**; an answer that
  is not among the first ones changes nothing.
* A rotation is asked only when there are at least two to choose from.

`Turns` is the rotation that remembers whose turn it was last in each team.
-/

namespace LeadRouting

/-! ## 1. Rotations -/

/-- What a rotation is offered: the team and the ids of those who tie. -/
structure Offer where
  teamId : String
  tied : List String
  deriving DecidableEq

/-- Something that says whose turn it is; `σ` is what it remembers. -/
structure Rotation (σ : Type) where
  answer : σ → Offer → Option String × σ

/-- A rotation that always answers the same and remembers what it was offered. -/
def Rotation.fixed (pick : Option String) : Rotation (List Offer) where
  answer offers o := (pick, offers ++ [o])

/-! ## 2. Taking turns -/

/-- Whose turn it was last, team by team. -/
structure Turns where
  last : String → Option String

namespace Turns

/-- No team has had a turn. -/
def empty : Turns := ⟨fun _ => none⟩

/-- Every turn is forgotten. -/
def reset (_ : Turns) : Turns := empty

/-- The turn of a team goes to an agent. -/
def record (t : Turns) (team agent : String) : Turns :=
  ⟨fun other => if other = team then some agent else t.last other⟩

/-- The one after `last`, the first one coming after the last one; the first one if `last` is not
among them. -/
def after (tied : List String) (last : Option String) : Option String :=
  match last.bind tied.idxOf? with
  | some i => tied[(i + 1) % tied.length]?
  | none => tied.head?

/-- Whose turn it is among those who tie, and what is remembered then. -/
def next (t : Turns) (o : Offer) : Option String × Turns :=
  match after o.tied (t.last o.teamId) with
  | some agent => (some agent, t.record o.teamId agent)
  | none => (none, t)

/-- The rotation that takes turns. -/
def rotation : Rotation Turns := ⟨next⟩

@[simp] theorem record_last_self (t : Turns) (team agent : String) :
    (t.record team agent).last team = some agent := by simp [record]

@[simp] theorem record_last_of_ne (t : Turns) {team other : String} (agent : String)
    (h : other ≠ team) : (t.record team agent).last other = t.last other := by simp [record, h]

@[simp] theorem after_nil (last : Option String) : after [] last = none := by
  cases last <;> simp [after]

/-- **The one whose turn it is is one of those who tie.** -/
theorem mem_of_after {tied : List String} {last : Option String} {id : String}
    (h : after tied last = some id) : id ∈ tied := by
  unfold after at h
  split at h
  · exact List.mem_of_getElem? h
  · exact List.mem_of_mem_head? h

end Turns

/-! ## 3. Whose turn it is in a ranking -/

/-- The agents in front that tie with the first one. -/
def leaders : List ScoredAgent → List ScoredAgent
  | [] => []
  | first :: rest => first :: rest.takeWhile fun s => s.ties first

/-- The place of an agent in the rotation of its team; of several entries of one id the last one
counts. -/
def rotationOrder? (pool : List Agent) (id : String) : Option UInt32 :=
  (pool.reverse.find? fun a => a.userId = id).bind Agent.rotationOrder

/-- In a rotation: those with a place ascending by it, then the others; ascending by id inside. -/
def turnsBefore (pool : List Agent) (a b : String) : Bool :=
  match rotationOrder? pool a, rotationOrder? pool b with
  | some x, some y => x < y || (x = y && a ≤ b)
  | some _, none => true
  | none, some _ => false
  | none, none => a ≤ b

/-- What the rotation of a team is offered for those who tie. -/
def Offer.of (teamId : String) (pool : List Agent) (tied : List ScoredAgent) : Offer :=
  ⟨teamId, (tied.map ScoredAgent.userId).mergeSort (turnsBefore pool)⟩

/-- The list with the entry at a place moved to the front. -/
def toFront {α : Type} (i : Nat) (xs : List α) : List α :=
  match xs[i]? with
  | some x => x :: xs.eraseIdx i
  | none => xs

/-- The ranking with the agent of an id moved to the front, if it is among the first `k`. -/
def promote (k : Nat) (id : String) (ranked : List ScoredAgent) : List ScoredAgent :=
  match (ranked.take k).findIdx? fun s => s.userId = id with
  | some i => toFront i ranked
  | none => ranked

/-- The ranking with the agent in front whose turn it is, and what the rotation remembers then. -/
def Rotation.arrange {σ : Type} (rot : Rotation σ) (teamId : String) (pool : List Agent)
    (ranked : List ScoredAgent) (s : σ) : List ScoredAgent × σ :=
  let tied := leaders ranked
  if tied.length < 2 then (ranked, s)
  else
    let (answer, s) := rot.answer s (.of teamId pool tied)
    (answer.elim ranked fun id => promote tied.length id ranked, s)

/-- The selection of a request with a rotation to break the tie of a team. -/
def LeadRequest.routeWith {σ : Type} (r : LeadRequest) (rot : Rotation σ) (teamId : String)
    (s : σ) : Selection × σ :=
  let (ranked, s) := rot.arrange teamId r.agents r.ranking s
  (.of r ranked, s)

end LeadRouting
