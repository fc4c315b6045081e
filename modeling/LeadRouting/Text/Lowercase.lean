import LeadRouting.Text.CaseTable

/-!
# Lower case

The lower case of a text is that of its characters, one after the other, with two exceptions that
Unicode lays down:

* `İ` becomes two characters, an `i` and a dot above it;
* a capital sigma at the end of a word becomes the final sigma `ς`. It **stands at the end of a word
  when a letter with case comes before it and none after it**, case-ignorable characters looked
  through on both sides.

So the lower case of a piece of a text need not be a piece of its lower case.
-/

namespace LeadRouting.Text

/-! ## 1. Properties of characters -/

/-- Whether a code point lies in one of the ranges. -/
def inRanges (ranges : List (Nat × Nat)) (n : Nat) : Bool :=
  ranges.any fun (lo, hi) => lo ≤ n && n ≤ hi

/-- A letter that has case and is not looked through. -/
def isCased (c : Char) : Bool :=
  if c.toNat < 0x80 then c.isAlpha else inRanges casedRanges c.toNat

/-- A character that is looked through. -/
def isCaseIgnorable (c : Char) : Bool := inRanges caseIgnorableRanges c.toNat

/-! ## 2. One character -/

/-- The lower-case letter of a character that has exactly one; any other character itself. -/
def lowerLetter (c : Char) : Char :=
  if c.toNat < 0x80 then c.toLower
  else
    match lowercaseRuns.find? fun (lo, hi, step, _) =>
        lo ≤ c.toNat && c.toNat ≤ hi && (c.toNat - lo) % step = 0 with
    | some (_, _, _, d) => Char.ofNat (c.toNat + d).toNat
    | none => c

/-- The lower case of a character, its neighbours aside. -/
def lowerChar (c : Char) : List Char :=
  if c = 'İ' then ['i', '\u0307'] else [lowerLetter c]

/-! ## 3. A text -/

/-- Whether the nearest character that is not looked through has case. -/
def meetsCased (cs : List Char) : Bool :=
  ((cs.dropWhile isCaseIgnorable).head?.map isCased).getD false

/-- The lower case of the rest of a text, `before` being the characters before it, the nearest
    first. -/
def lowerFrom : List Char → List Char → List Char
  | _, [] => []
  | before, c :: rest =>
    (if c = 'Σ' then [if meetsCased before && !meetsCased rest then 'ς' else 'σ'] else lowerChar c)
      ++ lowerFrom (c :: before) rest

/-- The lower case of a text, as characters. -/
def lowerChars (cs : List Char) : List Char := lowerFrom [] cs

/-- The lower case of a text. -/
def lower (s : String) : String := String.ofList (lowerChars s.toList)

@[simp] theorem lowerChars_nil : lowerChars [] = [] := rfl

end LeadRouting.Text
