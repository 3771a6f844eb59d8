/-!
# Blank characters

`isBlank` is the Unicode property White_Space, and `trim` removes blank characters at both ends of a text.
-/

namespace BenchCompare.Text

/-- The property White_Space. -/
def isBlank (c : Char) : Bool :=
  let n := c.toNat
  (0x09 ≤ n && n ≤ 0x0D) || n == 0x20 || n == 0x85 || n == 0xA0 || n == 0x1680 || (0x2000 ≤ n && n ≤ 0x200A)
    || n == 0x2028 || n == 0x2029 || n == 0x202F || n == 0x205F || n == 0x3000

/-- The characters without the blank ones at both ends. -/
def trimChars (l : List Char) : List Char :=
  ((l.dropWhile isBlank).reverse.dropWhile isBlank).reverse

/-- The text without blank characters at both ends. -/
def trim (s : String) : String := String.ofList (trimChars s.toList)

/-- The text without the slashes at both ends. -/
def trimSlashes (s : String) : String :=
  String.ofList ((s.toList.dropWhile (· == '/')).reverse.dropWhile (· == '/')).reverse

end BenchCompare.Text
