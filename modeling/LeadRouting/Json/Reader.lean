import LeadRouting.Document.Basic
import LeadRouting.Json.Number

/-!
# Reading documents

A text is read in two passes, each of which looks at its input once from left to right:

* `Lexer.step` takes a character and cuts the text into tokens;
* `Builder.step` takes a token and builds the document, the lists and records around it standing on
  a stack.

**A text is a document exactly if it has the form of one value with nothing but blanks around it**,
the blanks being space, tabulator and the two line ends. Entries of a record keep their order, and a
name may stand twice. What has the form of a value but is none is a `broken` part: a number beyond
the range of values, a text with a surrogate that stands in no pair, a record with such a name, and
what lies deeper than `depthLimit` lists and records. **A text is a value exactly if it is a
document without broken parts** (`read?`).
-/

namespace LeadRouting.Json

/-! ## 1. Tokens -/

/-- A sign, a text or another scalar of a document; nothing stands for what is broken. -/
inductive Token where
  | listOpen
  | listClose
  | recordOpen
  | recordClose
  | comma
  | colon
  | text (s : Option String)
  | scalar (s : Option Scalar)
  deriving DecidableEq

namespace Lexer

/-- What the characters read so far have begun; collected characters are the last one first, and
nothing is collected any more in a text that is broken. -/
inductive Mode where
  | between
  | word (got : List Char)
  | string (got : Option (List Char))
  | escape (got : Option (List Char))
  /-- Inside an escape by number: the first half of a pair if one came before, the digits still to
      come and the number so far. -/
  | number (got : Option (List Char)) (high : Option Nat) (left : Nat) (value : Nat)
  /-- After the first half of a pair, before the backslash of the second one. -/
  | pair (got : Option (List Char)) (high : Nat)
  /-- After that backslash. -/
  | pairEscape (got : Option (List Char)) (high : Nat)

/-- The tokens so far, the last one first, and what has begun. -/
structure State where
  tokens : List Token
  mode : Mode

/-- A blank of a document. -/
def isSpace (c : Char) : Bool := c = ' ' || c = '\t' || c = '\n' || c = '\r'

/-- The sign that a character is. -/
def sign? : Char → Option Token
  | '[' => some .listOpen
  | ']' => some .listClose
  | '{' => some .recordOpen
  | '}' => some .recordClose
  | ',' => some .comma
  | ':' => some .colon
  | _ => none

/-- The scalar that a word is. -/
def ofWord? (word : List Char) : Option Token :=
  if word = ['n', 'u', 'l', 'l'] then some (.scalar (some .null))
  else if word = ['t', 'r', 'u', 'e'] then some (.scalar (some (.bool true)))
  else if word = ['f', 'a', 'l', 's', 'e'] then some (.scalar (some (.bool false)))
  else (literal? word).map fun n => .scalar n.value?

/-- The value of a digit to the base sixteen. -/
def hexDigit? (c : Char) : Option Nat :=
  if c.isDigit then some (c.toNat - '0'.toNat)
  else if 'a' ≤ c && c ≤ 'f' then some (c.toNat - 'a'.toNat + 10)
  else if 'A' ≤ c && c ≤ 'F' then some (c.toNat - 'A'.toNat + 10)
  else none

/-- The character of an escape by letter. -/
def escaped? : Char → Option Char
  | '"' => some '"'
  | '\\' => some '\\'
  | '/' => some '/'
  | 'b' => some '\x08'
  | 'f' => some '\x0c'
  | 'n' => some '\n'
  | 'r' => some '\r'
  | 't' => some '\t'
  | _ => none

/-- One more character of a text. -/
def push (got : Option (List Char)) (c : Char) : Mode := .string (got.map (c :: ·))

/-- What follows once all digits of an escape by number are there. -/
def closeNumber (got : Option (List Char)) (high : Option Nat) (n : Nat) : Mode :=
  match high with
  | some h =>
    if 0xDC00 ≤ n && n ≤ 0xDFFF then
      push got (Char.ofNat (0x10000 + (h - 0xD800) * 0x400 + (n - 0xDC00)))
    else .string none
  | none =>
    if 0xD800 ≤ n && n ≤ 0xDBFF then .pair got n
    else if 0xDC00 ≤ n && n ≤ 0xDFFF then .string none
    else push got (Char.ofNat n)

/-- A character of a text. -/
def inString (tokens : List Token) (got : Option (List Char)) (c : Char) : Option State :=
  if c = '"' then some ⟨.text (got.map fun cs => String.ofList cs.reverse) :: tokens, .between⟩
  else if c = '\\' then some ⟨tokens, .escape got⟩
  else if c.toNat < 0x20 then none
  else some ⟨tokens, push got c⟩

/-- A character after a backslash. -/
def inEscape (tokens : List Token) (got : Option (List Char)) (c : Char) : Option State :=
  if c = 'u' then some ⟨tokens, .number got none 4 0⟩
  else (escaped? c).map fun e => ⟨tokens, push got e⟩

/-- A character that belongs to no word and no string. -/
def startToken (tokens : List Token) (c : Char) : Option State :=
  if isSpace c then some ⟨tokens, .between⟩
  else if c = '"' then some ⟨tokens, .string (some [])⟩
  else
    match sign? c with
    | some t => some ⟨t :: tokens, .between⟩
    | none => some ⟨tokens, .word [c]⟩

/-- One more character; nothing if no document goes on like that. -/
def step (s : State) (c : Char) : Option State :=
  match s.mode with
  | .between => startToken s.tokens c
  | .word got =>
    if isSpace c || c = '"' || (sign? c).isSome then
      (ofWord? got.reverse).bind fun t => startToken (t :: s.tokens) c
    else some ⟨s.tokens, .word (c :: got)⟩
  | .string got => inString s.tokens got c
  | .escape got => inEscape s.tokens got c
  | .number got high left value =>
    (hexDigit? c).bind fun d =>
      if left ≤ 1 then some ⟨s.tokens, closeNumber got high (16 * value + d)⟩
      else some ⟨s.tokens, .number got high (left - 1) (16 * value + d)⟩
  | .pair got high =>
    if c = '\\' then some ⟨s.tokens, .pairEscape got high⟩ else inString s.tokens none c
  | .pairEscape got high =>
    if c = 'u' then some ⟨s.tokens, .number got (some high) 4 0⟩ else inEscape s.tokens none c

/-- The tokens once the text has ended. -/
def finish (s : State) : Option (List Token) :=
  match s.mode with
  | .between => some s.tokens.reverse
  | .word got => (ofWord? got.reverse).map fun t => (t :: s.tokens).reverse
  | _ => none

end Lexer

/-- The tokens of a text. -/
def tokens? (cs : List Char) : Option (List Token) :=
  (cs.foldlM Lexer.step ⟨[], .between⟩).bind Lexer.finish

/-! ## 2. Documents -/

/-- The greatest number of lists and records inside one another. -/
def depthLimit : Nat := 127

namespace Builder

/-- A list or record that is still open; its parts are the last one first. A record keeps the key
that was read last beside its entries. -/
inductive Frame where
  | list (items : List Document)
  | record (entries : List (Option Key × Document)) (key : Option Key)

/-- What may come next. -/
inductive Expects where
  | value
  | valueOrClose
  | name
  | nameOrClose
  | colon
  | commaOrClose
  | nothing
  deriving DecidableEq

/-- What is open, from the inside to the outside, and the document once it is complete. -/
structure State where
  frames : List Frame
  expects : Expects
  result : Option Document

/-- A complete part takes its place in what is open around it. -/
def place (frames : List Frame) (d : Document) : State :=
  match frames with
  | [] => ⟨[], .nothing, some d⟩
  | .list items :: outer => ⟨.list (d :: items) :: outer, .commaOrClose, none⟩
  | .record entries key :: outer =>
    ⟨.record ((key, d) :: entries) key :: outer, .commaOrClose, none⟩

/-- A scalar, or the broken part in its place. -/
def ofScalar (s : Option Scalar) : Document := s.elim .broken .scalar

/-- A part is awaited. -/
def takeValue (frames : List Frame) : Token → Option State
  | .text s => some (place frames (ofScalar (s.map Scalar.text)))
  | .scalar s => some (place frames (ofScalar s))
  | .listOpen => some ⟨.list [] :: frames, .valueOrClose, none⟩
  | .recordOpen => some ⟨.record [] none :: frames, .nameOrClose, none⟩
  | _ => none

/-- A name of a record is awaited. -/
def takeName (frames : List Frame) : Token → Option State
  | .text name =>
    match frames with
    | .record entries _ :: outer =>
      some ⟨.record entries (name.map Key.text) :: outer, .colon, none⟩
    | _ => none
  | _ => none

/-- The list or record of a frame. -/
def Frame.complete : Frame → Document
  | .list items => .list .positional items.reverse
  | .record entries _ => .ofEntries .positional entries.reverse

/-- The innermost list or record is closed; it is broken if it stands too deep. -/
def closeFrame (f : Frame) (outer : List Frame) : State :=
  place outer (if outer.length < depthLimit then f.complete else .broken)

/-- The sign closes the innermost list or record. -/
def close (frames : List Frame) (t : Token) : Option State :=
  match t, frames with
  | .listClose, .list items :: outer => some (closeFrame (.list items) outer)
  | .recordClose, .record entries key :: outer => some (closeFrame (.record entries key) outer)
  | _, _ => none

/-- A comma between two parts. -/
def takeComma (frames : List Frame) : Option State :=
  match frames with
  | .list items :: outer => some ⟨.list items :: outer, .value, none⟩
  | .record entries key :: outer => some ⟨.record entries key :: outer, .name, none⟩
  | [] => none

/-- One more token; nothing if no document goes on like that. -/
def step (s : State) (t : Token) : Option State :=
  match s.expects with
  | .value => takeValue s.frames t
  | .valueOrClose => if t = .listClose then close s.frames t else takeValue s.frames t
  | .name => takeName s.frames t
  | .nameOrClose => if t = .recordClose then close s.frames t else takeName s.frames t
  | .colon => if t = .colon then some ⟨s.frames, .value, none⟩ else none
  | .commaOrClose => if t = .comma then takeComma s.frames else close s.frames t
  | .nothing => none

end Builder

/-- The document that a text is. -/
def document? (s : String) : Option Document :=
  (tokens? s.toList).bind fun ts =>
    (ts.foldlM Builder.step ⟨[], .value, none⟩).bind Builder.State.result

/-- The value that a text is, in normal form. -/
def read? (s : String) : Option Json := (document? s).bind Document.toJson?

end LeadRouting.Json
