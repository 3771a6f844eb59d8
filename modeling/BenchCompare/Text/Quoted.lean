import BenchCompare.Text.ClusterTable
import BenchCompare.Text.Ranges
import BenchCompare.Text.VisibleTable

/-!
# Quoted texts

A text shown between double quotes. Quotes, backslashes and the common controls get a backslash; every other
character that has no mark of its own, or that would join the one before it, is shown by its number.
-/

namespace BenchCompare.Text

/-- The lower-case hexadecimal numeral of `n`. -/
def hexNumeral (n : Nat) : String := String.ofList (Nat.toDigits 16 n)

/-- The half-width voiced marks, which extend the character before them and yet have a place of their own. -/
def isVoicedMark (c : Char) : Bool := c == '\uFF9E' || c == '\uFF9F'

/-- The character has no mark of its own, or would be seen as a part of the one before it. -/
def isShownByNumber (c : Char) : Bool :=
  inRanges c.toNat unprintableRanges || (inRanges c.toNat extendRanges && !isVoicedMark c)

/-- One character inside quotes. -/
def quoteChar (c : Char) : String :=
  if c == '\x00' then "\\0"
  else if c == '\t' then "\\t"
  else if c == '\n' then "\\n"
  else if c == '\r' then "\\r"
  else if c == '"' then "\\\""
  else if c == '\\' then "\\\\"
  else if isShownByNumber c then "\\u\x7b" ++ hexNumeral c.toNat ++ "\x7d"
  else c.toString

/-- The text between double quotes. -/
def quoted (s : String) : String :=
  "\"" ++ String.join (s.toList.map quoteChar) ++ "\""

end BenchCompare.Text
