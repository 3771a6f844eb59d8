import BenchCompare.Report.Table
import BenchCompare.Screen.Frame

/-!
# Reports on the screen

`reportLines` sets a report in lines, and `firstVisible` says which of them stands at the top of the area.
-/

namespace BenchCompare.View

open Screen Text

def trendColor : Trend → Color
  | .better => .green | .worse => .red | .unchanged => .gray

/-- A label column and three value columns. -/
def tableRow (label old new delta : String) (style deltaStyle : Style) : Line :=
  [⟨"  " ++ padEnd 28 label, style⟩, ⟨padStart 14 old, style⟩, ⟨padStart 14 new, style⟩,
    ⟨padStart 14 delta, deltaStyle⟩]

def rowLine (r : Row) : Line :=
  tableRow r.label (valueText r.old) (valueText r.new) r.delta.display {} { color := some (trendColor r.trend) }

def headingLine (r : Report) : Line :=
  tableRow "Metric" (Report.heading r.oldWorkload "Old") (Report.heading r.newWorkload "New") "Delta"
    { color := some .gray } { color := some .gray }

def sectionLines (s : Section) : List Line := [] :: [headed .yellow s.title] :: s.rows.map rowLine

/-- The lines of a report. -/
def reportLines (r : Report) : List Line :=
  headingLine r ::
    if r.sections.isEmpty then [[colored .darkGray "  no metrics in this result"]]
    else r.sections.flatMap sectionLines

/-- A view scrolls by fewer lines than this, and a greater number counts modulo it. -/
def scrollLimit : Nat := 65536

/-- The line at the top of an area of this height. As many lines are skipped as the view is scrolled by, but no
more than leave the last line at the foot. -/
def firstVisible (lines height scroll : Nat) : Nat := min scroll (lines - height) % scrollLimit

/-- Draws a report. -/
def drawReport (f : Frame) (a : Area) (r : Report) (scroll : Nat) : Frame :=
  let lines := reportLines r
  f.paragraph a (lines.drop (firstVisible lines.length a.height scroll))

end BenchCompare.View
