import LeadRouting.Text.EscapedTable
import LeadRouting.Text.Lowercase

/-!
# A text between quotes, as a message shows it

Quotes and backslashes get a backslash, five controls have a letter, and every other character
without a picture of its own is written as its number between braces.
-/

namespace LeadRouting.Text

/-- The digits of a number to the base sixteen. -/
def hexDigits (n : Nat) : String := String.ofList (Nat.toDigits 16 n)

/-- One character of a quotation. -/
def quotedChar (c : Char) : String :=
  if c = '"' then "\\\""
  else if c = '\\' then "\\\\"
  else if c = '\t' then "\\t"
  else if c = '\n' then "\\n"
  else if c = '\r' then "\\r"
  else if c.toNat = 0 then "\\0"
  else if inRanges escapedRanges c.toNat then "\\u\x7b" ++ hexDigits c.toNat ++ "\x7d"
  else c.toString

/-- The text between quotes. -/
def quoted (s : String) : String :=
  "\"" ++ String.join (s.toList.map quotedChar) ++ "\""

end LeadRouting.Text
