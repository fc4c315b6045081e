import LeadRouting.Json.Reader

/-!
# Tokens of indented documents

An indented document tells by the columns of its lines where a list or a record begins and ends. A
scanner puts these places into the tokens, so that whoever reads the tokens needs no columns. There
are two scanners, which differ in what they take for a break and in what they let pass; here is what
they have in common:

* spaces and breaks inside a scalar are a `Gap`, which is **folded**: a single break is a space, and
  of several the first one is left out;
* a scalar or a list may turn out to be a name when a colon follows it. Up to then it is a
  `Candidate`;
* inside double quotes a backslash begins an `Escape`.
-/

namespace LeadRouting.Yaml

/-! ## 1. Tokens -/

/-- A sign or a scalar of a document. -/
inductive Token where
  | documentStart | documentEnd
  | listStart | recordStart | blockEnd
  | flowListStart | flowListEnd | flowRecordStart | flowRecordEnd
  | item | separator | key | value
  | scalar (quoted : Bool) (text : String)
  deriving DecidableEq

/-- Three equal signs at the start of a line mark the start or the end of a document, if what is
behind them is `spaced`. -/
def documentMark? (spaced : List Char → Bool) (column : Nat) (cs : List Char) : Option Token :=
  if column = 0 then
    match cs with
    | '-' :: '-' :: '-' :: rest => if spaced rest then some .documentStart else none
    | '.' :: '.' :: '.' :: rest => if spaced rest then some .documentEnd else none
    | _ => none
  else none

/-- The character stands between words of a line. -/
def isSpace (c : Char) : Bool := c = ' ' || c = '\t'

/-- A sign of a list or a record between brackets. -/
def isFlowSign (c : Char) : Bool := c = ',' || c = '[' || c = ']' || c = '{' || c = '}'

/-! ## 2. Gaps -/

/-- Spaces and breaks inside a scalar. -/
structure Gap where
  /-- The spaces in front of the first break, the last one first. -/
  spaces : List Char
  /-- There has been a break. -/
  broken : Bool
  /-- The first break, unless it was taken back by a backslash. -/
  first : Option Char
  /-- The breaks after the first one, the last one first. -/
  more : List Char

namespace Gap

/-- Nothing between two characters. -/
def none : Gap := ⟨[], false, .none, []⟩

/-- A break that a backslash has taken back. -/
def continued : Gap := ⟨[], true, .none, []⟩

/-- There is something between two characters. -/
def isOpen (g : Gap) : Bool := g.broken || !g.spaces.isEmpty

/-- One more space; after a break it means nothing. -/
def addSpace (g : Gap) (c : Char) : Gap :=
  if g.broken then g else { g with spaces := c :: g.spaces }

/-- One more break. -/
def addBreak (g : Gap) (c : Char) : Gap :=
  if g.broken then { g with more := c :: g.more } else ⟨[], true, some c, []⟩

/-- What the gap stands for, the last character first: **a single line feed is a space, and of
several the first one is left out**. -/
def folded (g : Gap) : List Char :=
  if g.broken then
    match g.first with
    | some '\n' => if g.more.isEmpty then [' '] else g.more
    | some c => g.more ++ [c]
    | .none => g.more
  else g.spaces

end Gap

/-! ## 3. Escapes -/

/-- What a backslash has begun. -/
inductive Escape where
  | none
  | started
  /-- The digits still to come and the number so far. -/
  | number (left value : Nat)

/-- The character of an escape by letter. -/
def escaped? (c : Char) : Option Char :=
  match c with
  | '0' => some (Char.ofNat 0)
  | 'a' => some (Char.ofNat 7)
  | 'b' => some (Char.ofNat 8)
  | 't' | '\t' => some '\t'
  | 'n' => some '\n'
  | 'v' => some (Char.ofNat 11)
  | 'f' => some (Char.ofNat 12)
  | 'r' => some '\r'
  | 'e' => some (Char.ofNat 27)
  | ' ' => some ' '
  | '"' => some '"'
  | '/' => some '/'
  | '\\' => some '\\'
  | 'N' => some (Char.ofNat 0x85)
  | '_' => some (Char.ofNat 0xA0)
  | 'L' => some (Char.ofNat 0x2028)
  | 'P' => some (Char.ofNat 0x2029)
  | _ => none

/-- The number of digits of an escape by number. -/
def escapeLength? (c : Char) : Option Nat :=
  if c = 'x' then some 2 else if c = 'u' then some 4 else if c = 'U' then some 8 else none

/-- The number of an escape with one more digit. -/
def escapeNumber? (value : Nat) (c : Char) : Option Nat :=
  (Json.Lexer.hexDigit? c).map (16 * value + ·)

/-- The character of a number; there is none for a surrogate. -/
def ofNumber? (n : Nat) : Option Char :=
  if (0xD800 ≤ n && n ≤ 0xDFFF) || 0x10FFFF < n then none else some (Char.ofNat n)

/-! ## 4. What may turn out to be a name -/

/-- Something that may turn out to be a name. -/
structure Candidate where
  /-- It stands where only a name can stand. -/
  required : Bool
  /-- The number of tokens in front of it. -/
  number : Nat
  line : Nat
  column : Nat
  /-- The length of the text in front of it. -/
  index : Nat

end LeadRouting.Yaml
