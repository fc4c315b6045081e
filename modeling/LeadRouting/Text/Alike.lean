import LeadRouting.Text.Blank
import LeadRouting.Text.Lowercase

/-!
# Texts that are alike

Names of places, sources, tags and currencies are compared without regard to letter case and to
blanks around them (`alike`). The comparison tries the letters `A` to `Z` alone first and the full
lower case second. `alikeLetters` is the first half; operators and overlaps between source lists use
it alone.
-/

namespace LeadRouting.Text

/-- The characters with the capitals `A` to `Z` made small. -/
def smallLetters (cs : List Char) : List Char := cs.map Char.toLower

/-- Equal but for the case of the letters `A` to `Z`. -/
def alikeLetters (a b : String) : Bool := smallLetters a.toList = smallLetters b.toList

/-- Equal but for letter case and for blanks at the ends. -/
def alike (a b : String) : Bool :=
  let x := trimChars a.toList
  let y := trimChars b.toList
  smallLetters x = smallLetters y || lowerChars x = lowerChars y

/-- Whether a value, if there is one, is alike some entry of a list. -/
def listed (entries : List String) (value : Option String) : Bool :=
  value.any fun v => entries.any fun e => alike e v

/-- Whether a text occurs in another one as an unbroken piece. -/
def occursIn (needle : List Char) : List Char → Bool
  | [] => needle.isEmpty
  | c :: cs => needle.isPrefixOf (c :: cs) || occursIn needle cs

@[simp] theorem listed_none (entries : List String) : listed entries none = false := rfl

@[simp] theorem listed_some (entries : List String) (v : String) :
    listed entries (some v) = entries.any fun e => alike e v := rfl

end LeadRouting.Text
