import BenchCompare.Report.Basic
import BenchCompare.Text.Column

/-!
# Reports as plain tables

A heading line, then for each section an empty line, its title in brackets and a line for each row. The first
column is as wide as the longest label in bytes, and at least six.
-/

namespace BenchCompare.Report

open Text (padStart padEnd)

/-- The heading of a value column. -/
def heading (workload fallback : String) : String := if workload = "" then fallback else workload

/-- The width of the label column. -/
def labelWidth (r : Report) : Nat := (r.rows.map (·.label.utf8ByteSize)).foldl max 6

/-- The cells of one line. -/
def tableLine (width : Nat) (label old new delta : String) : String :=
  padEnd width label ++ "  " ++ padStart 14 old ++ "  " ++ padStart 14 new ++ "  " ++ padStart 9 delta

def headingLine (r : Report) : String :=
  tableLine r.labelWidth "metric" (heading r.oldWorkload "old") (heading r.newWorkload "new") "delta"

def rowLine (width : Nat) (r : Row) : String :=
  tableLine width r.label (valueText r.old) (valueText r.new) r.delta.display

def sectionLines (width : Nat) (s : Section) : List String :=
  "" :: ("[" ++ s.title ++ "]") :: s.rows.map (rowLine width)

/-- The lines of the table. -/
def tableLines (r : Report) : List String :=
  r.headingLine :: r.sections.flatMap (sectionLines r.labelWidth)

end BenchCompare.Report
