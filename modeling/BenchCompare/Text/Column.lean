/-!
# Columns of fixed width

Widths count characters. A text that is too long is left as it is.

Main statements: `length_padEnd`, `length_padStart`.
-/

namespace BenchCompare.Text

/-- The text, followed by as many spaces as it lacks. -/
def padEnd (width : Nat) (s : String) : String :=
  s ++ String.ofList (List.replicate (width - s.length) ' ')

/-- The text, preceded by as many spaces as it lacks. -/
def padStart (width : Nat) (s : String) : String :=
  String.ofList (List.replicate (width - s.length) ' ') ++ s

theorem length_padEnd (width : Nat) (s : String) : (padEnd width s).length = max width s.length := by
  simp [padEnd]; omega

theorem length_padStart (width : Nat) (s : String) : (padStart width s).length = max width s.length := by
  simp [padStart]; omega

end BenchCompare.Text
