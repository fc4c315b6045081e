import LeadRouting.Yaml.Token

/-!
# The scanner of rule texts

The scanner looks at the text once from left to right, at most three characters ahead, and puts the
places where a list or a record begins or ends into the tokens:

* `indents` holds the columns of the lists and records that are open; **a line that starts further
  left closes those that start further right**;
* the colon behind a `Candidate` puts a `key` token, and the start of a record if need be, in front
  of it;
* inside brackets and braces columns mean nothing.

Five characters are breaks. A mark of the byte order at the start of a line is passed over but takes
up a column. Anchors, tags, blocks of text and directives are not read.
-/

namespace LeadRouting.Yaml

/-! ## 1. Characters -/

/-- The character ends a line. -/
def isBreak (c : Char) : Bool := c = '\n' || c.toNat = 0x2028 || c.toNat = 0x2029

/-- What follows begins with a space, a break or the end of the text. -/
def spaced : List Char → Bool
  | [] => true
  | c :: _ => isSpace c || isBreak c

/-- The character may stand in a document. -/
def isAllowed (c : Char) : Bool :=
  let n := c.toNat
  n = 0x9 || n = 0xA || n = 0xD || (0x20 ≤ n && n ≤ 0x7E) || n = 0x85 || (0xA0 ≤ n && n ≤ 0xFFFD) ||
    0x10000 ≤ n

/-- The characters with every line end but the two of the second kind written as one line feed. -/
def unifyBreaks : List Char → List Char
  | [] => []
  | '\r' :: '\n' :: rest => '\n' :: unifyBreaks rest
  | c :: rest => (if c = '\r' || c.toNat = 0x85 then '\n' else c) :: unifyBreaks rest

/-- The mark of the byte order. -/
def isOrderMark (c : Char) : Bool := c.toNat = 0xFEFF

/-! ## 2. The state of the scanner -/

/-- What the characters read so far have begun; collected characters are the last one first. -/
inductive Mode where
  | between
  | comment
  /-- Characters that belong to a sign that has been read already. -/
  | skip (left : Nat)
  | plain (got : List Char) (gap : Gap)
  | single (got : List Char) (gap : Gap)
  /-- A quote inside single quotes, which ends the scalar unless another one follows. -/
  | singleQuote (got : List Char)
  | double (got : List Char) (gap : Gap) (escape : Escape)

/-- The state of the scanner. -/
structure Scanner where
  /-- The tokens so far, the last one first. -/
  tokens : List Token
  mode : Mode
  indent : Int
  indents : List Int
  /-- One entry for each bracket that is open and one for the text around them. -/
  candidates : List (Option Candidate)
  /-- A name may begin here. -/
  allowed : Bool
  line : Nat
  column : Nat
  index : Nat

namespace Scanner

/-- The scanner in front of a text. -/
def start : Scanner := ⟨[], .between, -1, [], [none], true, 0, 0, 0⟩

/-- The scanner is inside brackets. -/
def inFlow (s : Scanner) : Bool := 1 < s.candidates.length

/-- Behind a character, with something begun. -/
def advance (s : Scanner) (c : Char) (m : Mode) : Scanner :=
  { s with mode := m, column := s.column + 1, index := s.index + c.utf8Size }

/-- Behind a character that was a break, with something begun. -/
def advanceLine (s : Scanner) (c : Char) (m : Mode) : Scanner :=
  { s with mode := m, line := s.line + 1, column := 0, index := s.index + c.utf8Size }

/-- One more token. -/
def emit (s : Scanner) (t : Token) : Scanner := { s with tokens := t :: s.tokens }

/-- One more token, with `number` tokens in front of it. -/
def insert (s : Scanner) (number : Nat) (t : Token) : Scanner :=
  let behind := s.tokens.length - number
  { s with tokens := s.tokens.take behind ++ t :: s.tokens.drop behind }

/-! ## 3. Columns -/

/-- The open lists and records are those that start at or left of a column. -/
def unrollTo (column : Int) : Int → List Int → List Token → Int × List Int × List Token
  | indent, outer :: indents, tokens =>
    if column < indent then unrollTo column outer indents (.blockEnd :: tokens)
    else (indent, outer :: indents, tokens)
  | indent, [], tokens => (indent, [], tokens)

/-- Everything that starts right of a column is closed. -/
def unroll (s : Scanner) (column : Int) : Scanner :=
  if s.inFlow then s
  else
    let (indent, indents, tokens) := unrollTo column s.indent s.indents s.tokens
    { s with indent := indent, indents := indents, tokens := tokens }

/-- A list or a record starts at a column, unless one is open there already. -/
def roll (s : Scanner) (column number : Nat) (t : Token) : Scanner :=
  if s.inFlow || (column : Int) ≤ s.indent then s
  else { s.insert number t with indent := column, indents := s.indent :: s.indents }

/-! ## 4. Names -/

/-- The candidate is too far behind to be a name. -/
def isStale (s : Scanner) (k : Candidate) : Bool := k.line < s.line || k.index + 1024 < s.index

/-- The candidates that can still be names; nothing if one of them had to be. -/
def dropStale (s : Scanner) : Option Scanner :=
  if s.candidates.any fun k => k.any fun k => s.isStale k && k.required then none
  else some { s with candidates := s.candidates.map fun k => k.filter fun k => !s.isStale k }

/-- The innermost candidate is none any more; nothing if it had to be a name. -/
def dropCandidate (s : Scanner) : Option Scanner :=
  match s.candidates with
  | some k :: outer => if k.required then none else some { s with candidates := none :: outer }
  | _ => some s

/-- What begins here may turn out to be a name. -/
def markCandidate (s : Scanner) : Option Scanner :=
  if s.allowed then
    (s.dropCandidate).map fun s =>
      let k : Candidate :=
        ⟨!s.inFlow && s.indent = s.column, s.tokens.length, s.line, s.column, s.index⟩
      { s with candidates := some k :: s.candidates.tail }
  else some s

/-- A colon: the candidate is a name, or the name is left out. -/
def fetchValue (s : Scanner) : Option Scanner :=
  match s.candidates with
  | some k :: outer =>
    let s := { s with candidates := none :: outer, allowed := false }
    some (((s.insert k.number .key).roll k.column k.number .recordStart).emit .value)
  | _ =>
    if s.inFlow then some { s.emit .value with allowed := false }
    else if s.allowed then
      some { (s.roll s.column s.tokens.length .recordStart).emit .value with allowed := true }
    else none

/-- A question mark: a name follows. -/
def fetchKey (s : Scanner) : Option Scanner :=
  if s.inFlow then (s.dropCandidate).map fun s => { s.emit .key with allowed := false }
  else if s.allowed then
    ((s.roll s.column s.tokens.length .recordStart).dropCandidate).map fun s =>
      { s.emit .key with allowed := true }
  else none

/-- A hyphen: an entry of a list follows. -/
def fetchItem (s : Scanner) : Option Scanner :=
  if s.inFlow then (s.dropCandidate).map fun s => { s.emit .item with allowed := true }
  else if s.allowed then
    ((s.roll s.column s.tokens.length .listStart).dropCandidate).map fun s =>
      { s.emit .item with allowed := true }
  else none

/-! ## 5. Signs -/

/-- A bracket opens. -/
def openFlow (s : Scanner) (t : Token) : Option Scanner :=
  (s.markCandidate).map fun s =>
    { s.emit t with candidates := none :: s.candidates, allowed := true }

/-- A bracket closes. -/
def closeFlow (s : Scanner) (t : Token) : Option Scanner :=
  (s.dropCandidate).map fun s =>
    { s.emit t with
      candidates := if s.inFlow then s.candidates.tail else s.candidates
      allowed := false }

/-- A scalar begins. -/
def startScalar (s : Scanner) (c : Char) (m : Mode) : Option Scanner :=
  (s.markCandidate).map fun s => { s with allowed := false }.advance c m

/-- The character may be the first one of an unquoted scalar. -/
def startsPlain (s : Scanner) (c : Char) (rest : List Char) : Bool :=
  if c = '-' then !(rest.head?.any isSpace)
  else if c = '?' || c = ':' then !s.inFlow && !spaced rest
  else !isFlowSign c && !isBreak c && !isSpace c && c ≠ '#' && c ≠ '&' && c ≠ '*' && c ≠ '!' &&
    c ≠ '|' && c ≠ '>' && c ≠ '\'' && c ≠ '"' && c ≠ '%' && c ≠ '@' && c.toNat ≠ 0x60

/-- The token that begins with a character. -/
def fetch (s : Scanner) (c : Char) (rest : List Char) : Option Scanner := do
  let s := (← s.dropStale).unroll s.column
  match documentMark? spaced s.column (c :: rest) with
  | some mark =>
    let s ← (s.unroll (-1)).dropCandidate
    return { s.emit mark with allowed := false }.advance c (.skip 2)
  | none =>
    if s.column = 0 && c = '%' then none
    else if c = '[' then (← s.openFlow .flowListStart).advance c .between
    else if c = '{' then (← s.openFlow .flowRecordStart).advance c .between
    else if c = ']' then (← s.closeFlow .flowListEnd).advance c .between
    else if c = '}' then (← s.closeFlow .flowRecordEnd).advance c .between
    else if c = ',' then
      let s ← s.dropCandidate
      return { s.emit .separator with allowed := true }.advance c .between
    else if c = '-' && spaced rest then (← s.fetchItem).advance c .between
    else if c = '?' && (s.inFlow || spaced rest) then (← s.fetchKey).advance c .between
    else if c = ':' && (s.inFlow || spaced rest) then (← s.fetchValue).advance c .between
    else if c = '\'' then s.startScalar c (.single [] .none)
    else if c = '"' then s.startScalar c (.double [] .none .none)
    else if s.startsPlain c rest then s.startScalar c (.plain [c] .none)
    else none

/-- A character that belongs to no scalar. -/
def between (s : Scanner) (c : Char) (rest : List Char) : Option Scanner :=
  if c = ' ' || (c = '\t' && (s.inFlow || !s.allowed)) || (s.column = 0 && isOrderMark c) then
    some (s.advance c .between)
  else if c = '#' then some (s.advance c .comment)
  else if isBreak c then some ({ s with allowed := s.allowed || !s.inFlow }.advanceLine c .between)
  else s.fetch c rest

/-! ## 6. Scalars -/

/-- A scalar has ended in front of the current place. -/
def endScalar (s : Scanner) (quoted : Bool) (got : List Char) : Scanner :=
  { s.emit (.scalar quoted (String.ofList got.reverse)) with mode := .between }

/-- An unquoted scalar has ended; after a break a name may begin. -/
def endPlain (s : Scanner) (got : List Char) (gap : Gap) : Scanner :=
  { s.endScalar false got with allowed := s.allowed || gap.broken }

/-- A character that is neither space nor break, inside an unquoted scalar. -/
def plainChar (s : Scanner) (got : List Char) (gap : Gap) (c : Char) (rest : List Char) :
    Option Scanner :=
  let newWord := gap.isOpen
  if newWord && !s.inFlow && (s.column : Int) < s.indent + 1 then
    (s.endPlain got gap).between c rest
  else if newWord && ((documentMark? spaced s.column (c :: rest)).isSome || c = '#') then
    (s.endPlain got gap).between c rest
  else if s.inFlow && c = ':' && rest.head?.any (fun d => isFlowSign d || d = '?') then none
  else if (c = ':' && spaced rest) || (s.inFlow && isFlowSign c) then
    (s.endPlain got gap).between c rest
  else some (s.advance c (.plain (c :: (gap.folded ++ got)) .none))

/-- A character after a backslash. -/
def escapeChar (s : Scanner) (got : List Char) (c : Char) : Option Scanner :=
  if isBreak c then some (s.advanceLine c (.double got .continued .none))
  else
    match escapeLength? c with
    | some n => some (s.advance c (.double got .none (.number n 0)))
    | none => (escaped? c).map fun e => s.advance c (.double (e :: got) .none .none)

/-- A digit of an escape by number. -/
def escapeDigit (s : Scanner) (got : List Char) (left value : Nat) (c : Char) : Option Scanner := do
  let n ← escapeNumber? value c
  if 1 < left then return s.advance c (.double got .none (.number (left - 1) n))
  else (ofNumber? n).map fun e => s.advance c (.double (e :: got) .none .none)

/-- A space or a break inside a quoted scalar. -/
def quotedBlank (s : Scanner) (gap : Gap) (c : Char) (m : Gap → Mode) : Scanner :=
  if isSpace c then s.advance c (m (gap.addSpace c)) else s.advanceLine c (m (gap.addBreak c))

/-! ## 7. Steps -/

/-- One more character, `rest` being those that follow; nothing if no document goes on like that. -/
def step (s : Scanner) (c : Char) (rest : List Char) : Option Scanner :=
  match s.mode with
  | .between => s.between c rest
  | .comment => if isBreak c then s.between c rest else some (s.advance c .comment)
  | .skip left => some (s.advance c (if 1 < left then .skip (left - 1) else .between))
  | .plain got gap =>
    if isSpace c then
      if gap.broken && (s.column : Int) < s.indent + 1 && c = '\t' then none
      else some (s.advance c (.plain got (gap.addSpace c)))
    else if isBreak c then some (s.advanceLine c (.plain got (gap.addBreak c)))
    else s.plainChar got gap c rest
  | .single got gap =>
    if isSpace c || isBreak c then some (s.quotedBlank gap c fun g => .single got g)
    else if gap.isOpen && (documentMark? spaced s.column (c :: rest)).isSome then none
    else if c = '\'' then some (s.advance c (.singleQuote (gap.folded ++ got)))
    else some (s.advance c (.single (c :: (gap.folded ++ got)) .none))
  | .singleQuote got =>
    if c = '\'' then some (s.advance c (.single ('\'' :: got) .none))
    else (s.endScalar true got).between c rest
  | .double got gap .none =>
    if isSpace c || isBreak c then some (s.quotedBlank gap c fun g => .double got g .none)
    else if gap.isOpen && (documentMark? spaced s.column (c :: rest)).isSome then none
    else if c = '"' then some ((s.advance c .between).endScalar true (gap.folded ++ got))
    else if c = '\\' then some (s.advance c (.double (gap.folded ++ got) .none .started))
    else some (s.advance c (.double (c :: (gap.folded ++ got)) .none .none))
  | .double got _ .started => s.escapeChar got c
  | .double got _ (.number left value) => s.escapeDigit got left value c

/-- The scanner behind the characters. -/
def run (s : Scanner) : List Char → Option Scanner
  | [] => some s
  | c :: rest => (s.step c rest).bind fun s => s.run rest

/-- The tokens once the text has ended. -/
def finish (s : Scanner) : Option (List Token) := do
  let s ← match s.mode with
    | .between | .comment | .skip _ => some s
    | .plain got gap => some (s.endPlain got gap)
    | .singleQuote got => some (s.endScalar true got)
    | .single _ _ | .double _ _ _ => none
  let s ← ((← s.dropStale).unroll (-1)).dropCandidate
  return s.tokens.reverse

end Scanner

/-- The tokens of a text. -/
def tokens? (s : String) : Option (List Token) :=
  if s.toList.all isAllowed then (Scanner.start.run (unifyBreaks s.toList)).bind Scanner.finish
  else none

end LeadRouting.Yaml
