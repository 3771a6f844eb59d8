import BenchCompare.Picker
import BenchCompare.Screen.Frame
import BenchCompare.Screen.Wrap
import BenchCompare.View.Comparison

/-!
# The dialog of an open picker

The dialog holds the typed text and the entries that match it, with a heading for each group. `listRows` are the
rows of the list, and `listStart` is the row at its top, chosen so that the highlighted one can be seen.
-/

namespace BenchCompare.View

open Screen

def placeholder : String := "Search commit or releases..."

inductive ListRow where
  | heading (group : Group)
  | entry (ref : Ref) (highlighted : Bool)
deriving DecidableEq, Repr

def ListRow.isHighlighted : ListRow → Bool
  | .heading _ => false
  | .entry _ highlighted => highlighted

/-- The rows of a list, counted from `i`, after an entry of the group `last`. -/
def listRowsFrom (highlight : Option Nat) (last : Option Group) (i : Nat) : List Entry → List ListRow
  | [] => []
  | e :: es =>
    let row := ListRow.entry e.ref (highlight == some i)
    let others := listRowsFrom highlight (some e.group) (i + 1) es
    if last = some e.group then row :: others else .heading e.group :: row :: others

/-- The rows of a list, with a heading where a group begins. -/
def listRows (entries : List Entry) (highlight : Option Nat) : List ListRow := listRowsFrom highlight none 0 entries

/-- The row of the highlighted entry. -/
def highlightedRow? (rows : List ListRow) : Option Nat := rows.findIdx? (·.isHighlighted)

/-- The row at the top of a list of this height. -/
def listStart (rows : List ListRow) (height : Nat) : Nat :=
  match highlightedRow? rows with
  | some i => if 0 < height ∧ height ≤ i then (i + 1 - height) % scrollLimit else 0
  | none => 0

def ListRow.line : ListRow → Line
  | .heading group => [headed .yellow group.heading]
  | .entry ref highlighted =>
    [⟨(if highlighted then "> " else "  ") ++ ref.name, { reversed := highlighted }⟩,
      colored .darkGray ("  " ++ shortRef ref.hash)]

/-- Draws the entries that match. -/
def drawList (f : Frame) (a : Area) (rows : List ListRow) : Frame :=
  if rows.isEmpty then f.paragraph a [[colored .darkGray "No results found."]]
  else f.paragraph a ((rows.drop (listStart rows a.height)).map ListRow.line)

/-- Draws the dialog of a picker. -/
def drawPicker (f : Frame) (p : Picker) (catalog : Option Catalog) (note : Option String) : Frame :=
  let area := f.area.dialog
  let f := (f.clear area).box area [plain (p.side.label ++ " ref")]
  let input := area.inner.top 3
  let list := area.inner.belowTop 3
  let f := (f.box input []).paragraph input.inner
    [[if p.input = "" then colored .darkGray placeholder else plain p.input]]
  match catalog with
  | some c => drawList f list (listRows (c.listed p.input) p.highlight)
  | none => f.block list (wrap list.width (colored .gray (note.getD "loading refs...")).pieces)

end BenchCompare.View
