import LeadRouting.Yaml.Token

/-!
# The scanner of settings files

Like the scanner of rule texts this one looks at the text once from left to right and puts the
places where a list or a record begins or ends into the tokens. It is strict where the other one is
not, and the other way round:

* **every line of a value stays right of the record or the list that holds it**, also between
  brackets and inside quotes. The column that a line may not fall short of is the `margin`; behind a
  colon and inside brackets it lies one column further right than what is open there;
* a comment stands behind a blank, and behind a quoted scalar there is nothing on the line that does
  not belong to the lists and records around it;
* between brackets a name may stretch over lines, and a question mark or a colon in front of a
  character begins a scalar.

Line feed and carriage return are the breaks. Anchors, tags, blocks of text and directives are not
read.
-/

namespace LeadRouting.Yaml.Strict

/-! ## 1. Characters -/

/-- The character ends a line. -/
def isBreak (c : Char) : Bool := c = '\n'

/-- What follows begins with a space, a break or the end of the text. -/
def spaced : List Char → Bool
  | [] => true
  | c :: _ => isSpace c || isBreak c

/-- The characters up to the first NUL, with every line end written as one line feed. -/
def unifyBreaks : List Char → List Char
  | [] => []
  | '\r' :: '\n' :: rest => '\n' :: unifyBreaks rest
  | c :: rest => if c.toNat = 0 then [] else (if c = '\r' then '\n' else c) :: unifyBreaks rest

/-- There is nothing but blanks and a comment up to the end of the line. -/
def lineEnds (cs : List Char) : Bool :=
  match cs.dropWhile isSpace with
  | [] => true
  | c :: _ => isBreak c || c = '#'

/-- A comment stands right behind what has been read. -/
def comments (rest : List Char) : Bool := rest.head? = some '#'

/-- What follows begins with a tabulator and no space comes before a word. -/
def tabbedWord (rest : List Char) : Bool :=
  rest.head? = some '\t' && !(rest.takeWhile isSpace).contains ' ' &&
    (rest.dropWhile isSpace).head?.any fun c => c.isAlphanum || c = '-' || c = '_'

/-- What follows is a list in the same line, behind a tabulator. -/
def tabbedItem (rest : List Char) : Bool :=
  (rest.takeWhile isSpace).contains '\t' &&
    match rest.dropWhile isSpace with
    | '-' :: behind => spaced behind
    | _ => false

/-! ## 2. The state of the scanner -/

/-- What the characters read so far have begun; collected characters are the last one first. -/
inductive Mode where
  | between
  | comment
  /-- Characters that belong to a sign that has been read already. -/
  | skip (left : Nat)
  | plain (got : List Char) (gap : Gap)
  /-- The rest of an empty line inside an unquoted scalar. -/
  | plainLine (got : List Char) (gap : Gap)
  | single (got : List Char) (gap : Gap)
  /-- A quote inside single quotes, which ends the scalar unless another one follows. -/
  | singleQuote (got : List Char)
  | double (got : List Char) (gap : Gap) (escape : Escape)

/-- A margin has been set. -/
structure Level where
  /-- The margin outside. -/
  outer : Int
  /-- A list or a record starts at the margin. -/
  block : Bool

/-- The state of the scanner. -/
structure Scanner where
  /-- The tokens so far, the last one first. -/
  tokens : List Token
  mode : Mode
  margin : Int
  levels : List Level
  /-- The brackets that are open, the innermost one first. -/
  brackets : List Token
  /-- One entry for each bracket that is open and one for the text around them. -/
  candidates : List (Option Candidate)
  /-- A name may begin here. -/
  allowed : Bool
  /-- A colon needs no space behind it here. -/
  adjacent : Bool
  line : Nat
  column : Nat
  index : Nat

namespace Scanner

/-- The scanner in front of a text. -/
def start : Scanner := ⟨[], .between, -1, [], [], [none], true, false, 0, 0, 0⟩

/-- The scanner is inside brackets. -/
def inFlow (s : Scanner) : Bool := !s.brackets.isEmpty

/-- One character further, with something begun. -/
def advance (s : Scanner) (m : Mode) : Scanner :=
  { s with mode := m, column := s.column + 1, index := s.index + 1 }

/-- One character further, which was a break. -/
def advanceLine (s : Scanner) (m : Mode) : Scanner :=
  { s with mode := m, line := s.line + 1, column := 0, index := s.index + 1 }

/-- One more token. -/
def emit (s : Scanner) (t : Token) : Scanner := { s with tokens := t :: s.tokens }

/-- One more token, with `number` tokens in front of it. -/
def insert (s : Scanner) (number : Nat) (t : Token) : Scanner :=
  let behind := s.tokens.length - number
  { s with tokens := s.tokens.take behind ++ t :: s.tokens.drop behind }

/-- The current place is left of the margin. -/
def outside (s : Scanner) : Bool := (s.column : Int) < s.margin

/-! ## 3. Margins -/

/-- The margins are those at or left of a column. -/
def unrollTo (column : Int) : Int → List Level → List Token → Int × List Level × List Token
  | margin, l :: levels, tokens =>
    if column < margin then
      unrollTo column l.outer levels (if l.block then .blockEnd :: tokens else tokens)
    else (margin, l :: levels, tokens)
  | margin, [], tokens => (margin, [], tokens)

/-- Everything that starts right of a column is closed. -/
def unroll (s : Scanner) (column : Int) : Scanner :=
  if s.inFlow then s
  else
    let (margin, levels, tokens) := unrollTo column s.margin s.levels s.tokens
    { s with margin := margin, levels := levels, tokens := tokens }

/-- The margin is no longer the one of a value if it lies at a column or left of it. -/
def settleAt (s : Scanner) (column : Int) : Scanner :=
  match s.levels with
  | ⟨outer, false⟩ :: levels =>
    if s.margin ≤ column then { s with margin := outer, levels := levels } else s
  | _ => s

/-- A list or a record starts at a column, unless one is open there already. -/
def roll (s : Scanner) (column number : Nat) (t : Token) : Scanner :=
  if s.inFlow then s
  else
    let s := s.settleAt column
    if (column : Int) ≤ s.margin then s
    else { s.insert number t with margin := column, levels := ⟨s.margin, true⟩ :: s.levels }

/-- A value of the innermost list or record begins: its margin is one column further right. -/
def enter (s : Scanner) : Scanner :=
  if !s.inFlow && s.levels.head?.any Level.block then
    { s with margin := s.margin + 1, levels := ⟨s.margin, false⟩ :: s.levels }
  else s

/-- The margin of the innermost list or record. -/
def leaveTo : Int → List Level → Int × List Level
  | _, ⟨outer, false⟩ :: levels => leaveTo outer levels
  | margin, levels => (margin, levels)

/-- No value has a margin of its own. -/
def leave (s : Scanner) : Scanner :=
  let (margin, levels) := leaveTo s.margin s.levels
  { s with margin := margin, levels := levels }

/-! ## 4. Names -/

/-- The candidate is too far behind to be a name; between brackets it never is. -/
def isStale (s : Scanner) (k : Candidate) : Bool :=
  !s.inFlow && (k.line < s.line || k.index + 1024 < s.index)

/-- The candidates that can still be names; nothing if one of them had to be. -/
def dropStale (s : Scanner) : Option Scanner :=
  if s.candidates.any fun k => k.any fun k => s.isStale k && k.required then none
  else some { s with candidates := s.candidates.map fun k => k.filter fun k => !s.isStale k }

/-- The innermost candidate is none any more; nothing if it had to be a name. -/
def dropCandidate (s : Scanner) : Option Scanner :=
  match s.candidates with
  | some k :: outer => if k.required then none else some { s with candidates := none :: outer }
  | _ => some s

/-- What begins here may turn out to be a name. -/
def markCandidate (s : Scanner) : Scanner :=
  if s.allowed then
    let required := !s.inFlow && s.margin = s.column && s.levels.head?.any Level.block
    let k : Candidate := ⟨required, s.tokens.length, s.line, s.column, s.index⟩
    { s with candidates := some k :: s.candidates.tail }
  else s

/-- A colon behind a candidate, which is a name. In a list between brackets it stands in the line of
the colon. -/
def fetchNamed (s : Scanner) (k : Candidate) (outer : List (Option Candidate)) : Option Scanner :=
  if s.brackets.head? = some .flowListStart && k.line < s.line then none
  else
    let s := { s with candidates := none :: outer, allowed := false }
    some (((s.insert k.number .key).roll k.column k.number .recordStart).enter.emit .value)

/-- A colon: the candidate is a name, or the name is left out. -/
def fetchValue (s : Scanner) (rest : List Char) : Option Scanner :=
  if tabbedWord rest then none
  else
    match s.candidates with
    | some k :: outer => s.fetchNamed k outer
    | _ =>
      if s.inFlow then some { s.emit .value with allowed := false }
      else if s.allowed then
        some { (s.roll s.column s.tokens.length .recordStart).enter.emit .value with
          allowed := true }
      else none

/-- A question mark: a name follows, and no tabulator in front of it. -/
def fetchKey (s : Scanner) (rest : List Char) : Option Scanner :=
  if rest.isEmpty || (rest.dropWhile fun c => c = ' ' || isBreak c).head? = some '\t' then none
  else if s.inFlow then (s.dropCandidate).map fun s => { s.emit .key with allowed := false }
  else if s.allowed then
    ((s.roll s.column s.tokens.length .recordStart).dropCandidate).map fun s =>
      { s.emit .key with allowed := true }
  else none

/-- A hyphen: an entry of a list follows. What stands in another line or in brackets has a margin of
its own. -/
def fetchItem (s : Scanner) (rest : List Char) : Option Scanner :=
  if s.inFlow || !s.allowed || tabbedItem rest then none
  else
    let s := s.roll s.column s.tokens.length .listStart
    let apart := lineEnds rest || (rest.dropWhile isSpace).head?.any isFlowSign
    ((if apart then s.enter else s).dropCandidate).map fun s =>
      { s.emit .item with allowed := true }

/-! ## 5. Signs -/

/-- The greatest number of brackets inside one another. -/
def bracketLimit : Nat := 255

/-- A bracket opens. -/
def openFlow (s : Scanner) (t : Token) (rest : List Char) : Option Scanner :=
  if comments rest || bracketLimit ≤ s.brackets.length then none
  else
    let s := s.markCandidate.enter
    some { s.emit t with
      brackets := t :: s.brackets
      candidates := none :: s.candidates
      allowed := true }

/-- A bracket closes. -/
def closeFlow (s : Scanner) (t : Token) (rest : List Char) : Option Scanner :=
  if comments rest then none
  else
    (s.dropCandidate).map fun s =>
      { s.emit t with
        brackets := s.brackets.tail
        candidates := if s.inFlow then s.candidates.tail else s.candidates
        allowed := false
        adjacent := (rest.dropWhile isSpace).head? = some ':' }

/-- A comma. -/
def fetchSeparator (s : Scanner) (rest : List Char) : Option Scanner :=
  if comments rest then none
  else (s.dropCandidate).map fun s => { s.emit .separator with allowed := true }

/-- A mark of a document. Behind the mark of an end there is nothing in the line. -/
def fetchMark (s : Scanner) (mark : Token) (rest : List Char) : Option Scanner :=
  if mark = .documentEnd && !lineEnds (rest.drop 2) then none
  else ((s.unroll (-1)).dropCandidate).map fun s => { s.emit mark with allowed := false }

/-- A quoted scalar begins. -/
def startQuoted (s : Scanner) (m : Mode) : Scanner :=
  { s.markCandidate with allowed := false }.advance m

/-- A hyphen between brackets with a sign behind it. -/
def looseHyphen (s : Scanner) (c : Char) (rest : List Char) : Bool :=
  s.inFlow && c = '-' && rest.head?.any isFlowSign

/-- An unquoted scalar begins. -/
def startPlain (s : Scanner) (c : Char) (rest : List Char) : Option Scanner :=
  let s := { s.markCandidate.leave with allowed := false }
  if s.inFlow && (s.column : Int) < s.margin + 1 then none
  else if s.looseHyphen c rest then none
  else some (s.advance (.plain [c] .none))

/-- The character may be the first one of an unquoted scalar. -/
def startsPlain (s : Scanner) (c : Char) : Bool :=
  c ≠ '&' && c ≠ '*' && c ≠ '!' && c ≠ '%' && c ≠ '@' && c.toNat ≠ 0x60 &&
    (s.inFlow || (c ≠ '|' && c ≠ '>'))

/-- The colon stands in front of a value. -/
def marksValue (s : Scanner) (adjacent : Bool) (rest : List Char) : Bool :=
  spaced rest || (s.inFlow && (rest.head?.any isFlowSign || adjacent))

/-- The token that begins with a character at the margin or right of it. -/
def fetchSign (s : Scanner) (adjacent : Bool) (c : Char) (rest : List Char) : Option Scanner := do
  if c = '[' then (← s.openFlow .flowListStart rest).advance .between
  else if c = '{' then (← s.openFlow .flowRecordStart rest).advance .between
  else if c = ']' then (← s.closeFlow .flowListEnd rest).advance .between
  else if c = '}' then (← s.closeFlow .flowRecordEnd rest).advance .between
  else if c = ',' then (← s.fetchSeparator rest).advance .between
  else if c = '-' && spaced rest then (← s.fetchItem rest).advance .between
  else if c = '?' && spaced rest then (← s.fetchKey rest).advance .between
  else if c = ':' && s.marksValue adjacent rest then (← s.fetchValue rest).advance .between
  else if c = '\'' then s.startQuoted (.single [] .none)
  else if c = '"' then s.startQuoted (.double [] .none .none)
  else if s.startsPlain c then s.startPlain c rest
  else none

/-- The token that begins with a character. -/
def fetch (s : Scanner) (c : Char) (rest : List Char) : Option Scanner := do
  let adjacent := s.adjacent
  let s := { ← s.dropStale with adjacent := false }.unroll s.column
  match documentMark? spaced s.column (c :: rest) with
  | some mark => (← s.fetchMark mark rest).advance (.skip 2)
  | none =>
    if (s.column = 0 && c = '%') || s.outside then none
    else s.fetchSign adjacent c rest

/-- A character that belongs to no scalar. A tabulator outside the margin stands in an empty
line. -/
def between (s : Scanner) (c : Char) (rest : List Char) : Option Scanner :=
  if c = '\t' && s.outside && !lineEnds rest then none
  else if isSpace c then some (s.advance .between)
  else if c = '#' then some (s.advance .comment)
  else if isBreak c then some ({ s with allowed := s.allowed || !s.inFlow }.advanceLine .between)
  else s.fetch c rest

/-! ## 6. Scalars -/

/-- A scalar has ended in front of the current place. -/
def endScalar (s : Scanner) (quoted : Bool) (got : List Char) : Scanner :=
  { s.emit (.scalar quoted (String.ofList got.reverse)) with mode := .between, adjacent := quoted }

/-- What may follow a quoted scalar: the end of the line, a colon, or a sign of what is around
it. -/
def endsQuoted (s : Scanner) (rest : List Char) : Bool :=
  !comments rest &&
    (lineEnds rest ||
      (rest.dropWhile isSpace).head?.any fun c =>
        c = ':' || (s.inFlow && (c = ',' || c = ']' || c = '}')))

/-- A quoted scalar has ended in front of the current place. -/
def endQuoted (s : Scanner) (got rest : List Char) : Option Scanner :=
  if s.endsQuoted rest then some (s.endScalar true got) else none

/-- An unquoted scalar has ended; after a break a name may begin. -/
def endPlain (s : Scanner) (got : List Char) (gap : Gap) : Scanner :=
  { s.endScalar false got with allowed := s.allowed || gap.broken }

/-- An unquoted scalar goes on with a character. -/
def continuesPlain (s : Scanner) (c : Char) (rest : List Char) : Bool :=
  if c = ':' then !(spaced rest || (s.inFlow && rest.head?.any isFlowSign))
  else !(s.inFlow && isFlowSign c)

/-- A character that is neither space nor break, inside an unquoted scalar. -/
def plainChar (s : Scanner) (got : List Char) (gap : Gap) (c : Char) (rest : List Char) :
    Option Scanner :=
  let newWord := gap.isOpen
  if newWord && !s.inFlow && (s.column : Int) < s.margin + 1 then
    (s.endPlain got gap).between c rest
  else if newWord && ((documentMark? spaced s.column (c :: rest)).isSome || c = '#') then
    (s.endPlain got gap).between c rest
  else if newWord && s.looseHyphen c rest then none
  else if !s.continuesPlain c rest then (s.endPlain got gap).between c rest
  else some (s.advance (.plain (c :: (gap.folded ++ got)) .none))

/-- A space inside an unquoted scalar. A tabulator outside the margin stands in an empty line. -/
def plainSpace (s : Scanner) (got : List Char) (gap : Gap) (c : Char) (rest : List Char) :
    Option Scanner :=
  if gap.broken && c = '\t' && (s.column : Int) < s.margin + 1 then
    if lineEnds rest then some (s.advance (.plainLine got gap)) else none
  else some (s.advance (.plain got (gap.addSpace c)))

/-- A space or a break inside a quoted scalar; nothing for a tabulator outside the margin. -/
def quotedBlank (s : Scanner) (gap : Gap) (c : Char) (m : Gap → Mode) : Option Scanner :=
  if gap.broken && c = '\t' && s.outside then none
  else if isSpace c then some (s.advance (m (gap.addSpace c)))
  else some (s.advanceLine (m (gap.addBreak c)))

/-- A word of a quoted scalar may not begin here. -/
def misplaced (s : Scanner) (gap : Gap) (c : Char) (rest : List Char) : Bool :=
  gap.isOpen && (s.outside || (documentMark? spaced s.column (c :: rest)).isSome)

/-- A double quote right behind a break that a backslash has taken back. -/
def closesLine (s : Scanner) (gap : Gap) (c : Char) : Bool :=
  c = '"' && s.column = 0 && gap.broken && gap.first.isNone && gap.more.isEmpty

/-- A character inside double quotes that is neither space nor break. -/
def doubleChar (s : Scanner) (got : List Char) (gap : Gap) (c : Char) (rest : List Char) :
    Option Scanner :=
  if s.misplaced gap c rest && !s.closesLine gap c then none
  else if c = '"' then (s.advance .between).endQuoted (gap.folded ++ got) rest
  else if c = '\\' then some (s.advance (.double (gap.folded ++ got) .none .started))
  else some (s.advance (.double (c :: (gap.folded ++ got)) .none .none))

/-- A character after a backslash. -/
def escapeChar (s : Scanner) (got : List Char) (c : Char) : Option Scanner :=
  if isBreak c then some (s.advanceLine (.double got .continued .none))
  else
    match escapeLength? c with
    | some n => some (s.advance (.double got .none (.number n 0)))
    | none => (escaped? c).map fun e => s.advance (.double (e :: got) .none .none)

/-- A digit of an escape by number. -/
def escapeDigit (s : Scanner) (got : List Char) (left value : Nat) (c : Char) : Option Scanner := do
  let n ← escapeNumber? value c
  if 1 < left then return s.advance (.double got .none (.number (left - 1) n))
  else (ofNumber? n).map fun e => s.advance (.double (e :: got) .none .none)

/-! ## 7. Steps -/

/-- One more character, `rest` being those that follow; nothing if no document goes on like that. -/
def step (s : Scanner) (c : Char) (rest : List Char) : Option Scanner :=
  match s.mode with
  | .between => s.between c rest
  | .comment => if isBreak c then s.between c rest else some (s.advance .comment)
  | .skip left => some (s.advance (if 1 < left then .skip (left - 1) else .between))
  | .plain got gap =>
    if isSpace c then s.plainSpace got gap c rest
    else if isBreak c then some (s.advanceLine (.plain got (gap.addBreak c)))
    else s.plainChar got gap c rest
  | .plainLine got gap =>
    if isBreak c then some (s.advanceLine (.plain got (gap.addBreak c)))
    else some (s.advance (.plainLine got gap))
  | .single got gap =>
    if isSpace c || isBreak c then s.quotedBlank gap c fun g => .single got g
    else if s.misplaced gap c rest then none
    else if c = '\'' then some (s.advance (.singleQuote (gap.folded ++ got)))
    else some (s.advance (.single (c :: (gap.folded ++ got)) .none))
  | .singleQuote got =>
    if c = '\'' then some (s.advance (.single ('\'' :: got) .none))
    else (s.endQuoted got (c :: rest)).bind fun s => s.between c rest
  | .double got gap .none =>
    if isSpace c || isBreak c then s.quotedBlank gap c fun g => .double got g .none
    else s.doubleChar got gap c rest
  | .double got _ .started => s.escapeChar got c
  | .double got _ (.number left value) => s.escapeDigit got left value c

/-- The scanner behind the characters. -/
def run (s : Scanner) : List Char → Option Scanner
  | [] => some s
  | c :: rest => (s.step c rest).bind fun s => s.run rest

/-- The tokens once the text has ended. -/
def finish (s : Scanner) : Option (List Token) := do
  let s ← match s.mode with
    | .between | .comment | .skip _ => some s
    | .plain got gap => some (s.endPlain got gap)
    | .plainLine got gap => some (s.endPlain got gap)
    | .singleQuote got => some (s.endScalar true got)
    | .single _ _ | .double _ _ _ => none
  if s.candidates.any fun k => k.any Candidate.required then none
  else return (s.unroll (-1)).tokens.reverse

end Scanner

/-- The tokens of a text. -/
def tokens? (s : String) : Option (List Token) :=
  (Scanner.start.run (unifyBreaks s.toList)).bind Scanner.finish

end LeadRouting.Yaml.Strict
