/-!
# Searching a text

`occursIn` says whether one list of characters stands somewhere inside another, and `splitParts` cuts a list at
each separator.

Main statements: `occursIn_iff`.
-/

namespace BenchCompare.Text

/-- The characters `part` follow one another somewhere in the list. -/
def occursIn (part : List Char) : List Char → Bool
  | [] => part.isEmpty
  | c :: rest => part.isPrefixOf (c :: rest) || occursIn part rest

theorem occursIn_iff {part l : List Char} : occursIn part l = true ↔ part <:+: l := by
  induction l with
  | nil => simp [occursIn]
  | cons c rest ih => simp [occursIn, ih, List.infix_cons_iff]

/-- The parts between separators, at least one. -/
def splitParts (separator : Char) : List Char → List (List Char)
  | [] => [[]]
  | c :: rest =>
    if c == separator then [] :: splitParts separator rest
    else match splitParts separator rest with
      | [] => [[c]]
      | part :: parts => (c :: part) :: parts

end BenchCompare.Text
