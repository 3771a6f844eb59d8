import BenchCompare.Screen.Area
import BenchCompare.Screen.Line

/-!
# Frames

A frame is a grid of cells, each with a text and a style. Drawing stays within the area that it is given.

* `Frame.clear`, `Frame.box`, `Frame.paragraph`: an empty area, a border with a title, and lines of text.
* `Frame.rows`, `Frame.runs`: what a frame shows.
-/

namespace BenchCompare.Screen

structure Cell where
  text : String := " "
  style : Style := {}
deriving DecidableEq, Repr, Inhabited

/-- The text takes more than one column. -/
def Cell.isWide (c : Cell) : Bool := 1 < Text.width c.text.toList

/-- A grid of cells, row by row. -/
structure Frame where
  width : Nat
  height : Nat
  cells : Array Cell
  size_cells : cells.size = width * height

namespace Frame

def blank (width height : Nat) : Frame :=
  { width, height, cells := Array.replicate (width * height) {}, size_cells := by simp }

/-- The whole frame. -/
def area (f : Frame) : Area := { x := 0, y := 0, width := f.width, height := f.height }

def get (f : Frame) (x y : Nat) : Cell := (f.cells[y * f.width + x]?).getD {}

/-- Sets a cell, if there is one. -/
def set (f : Frame) (x y : Nat) (c : Cell) : Frame :=
  if x < f.width then
    { f with cells := f.cells.setIfInBounds (y * f.width + x) c, size_cells := by simp [f.size_cells] }
  else f

/-- Sets the same cell at many places. -/
def setAll (f : Frame) (places : List (Nat × Nat)) (c : Cell) : Frame :=
  places.foldl (fun f p => f.set p.1 p.2 c) f

/-! ### Drawing -/

/-- Empties an area. -/
def clear (f : Frame) (a : Area) : Frame :=
  f.setAll ((List.range a.height).flatMap fun j => (List.range a.width).map fun i => (a.x + i, a.y + j)) {}

/-- Draws a text over a cell. -/
def write (f : Frame) (x y : Nat) (p : Piece) : Frame :=
  f.set x y { text := p.text, style := p.style.over (f.get x y).style }

/-- Adds a text to what stands in a cell. -/
def append (f : Frame) (x y : Nat) (p : Piece) : Frame :=
  f.set x y { text := (f.get x y).text ++ p.text, style := p.style.over (f.get x y).style }

/-- Draws pieces from a place to the right. -/
def pieces (f : Frame) (x y : Nat) : List Piece → Frame
  | [] => f
  | p :: ps => pieces (f.write x y p) (x + p.width) y ps

/-- Draws rows of pieces from the top of an area, each as far as it can be seen. -/
def block (f : Frame) (a : Area) (rows : List (List Piece)) : Frame :=
  (rows.take a.height).zipIdx.foldl (fun f r => f.pieces a.x (a.y + r.2) (Piece.visible a.width r.1)) f

/-- Draws lines from the top of an area, each as far as it can be seen. -/
def paragraph (f : Frame) (a : Area) (lines : List Line) : Frame := f.block a (lines.map Line.pieces)

/-! ### Titles -/

/-- Empties the cells under the rest of a wide piece. -/
def cover (f : Frame) (x y : Nat) (p : Piece) : Frame :=
  f.setAll ((List.range (p.width - 1)).map fun i => (x + 1 + i, y)) {}

/-- Draws the pieces after the first one of a span that begins in column `left`, as far as they fit before column
`stop`. A piece of no width is added to the cell before it, and what comes after a first piece of no width is added
to that. -/
def spanRest (f : Frame) (left x y stop : Nat) : List Piece → Frame
  | [] => f
  | p :: ps =>
    if stop < x + p.width then f
    else
      let f := if x = left then f.append x y p else if p.width = 0 then f.append (x - 1) y p else f.write x y p
      spanRest (f.cover x y p) left (x + p.width) y stop ps

/-- Draws a span, as far as it fits before column `stop`. -/
def span (f : Frame) (x y stop : Nat) (s : Span) : Frame :=
  match s.pieces with
  | [] => f
  | p :: ps => if stop < x + p.width then f else ((f.write x y p).cover x y p).spanRest x (x + p.width) y stop ps

/-- Draws spans before column `stop`. Every span begins where the one before it ends by its width. -/
def spans (f : Frame) (x y stop : Nat) : Line → Frame
  | [] => f
  | s :: rest =>
    if s.width = 0 then spans f x y stop rest
    else if stop ≤ x then f
    else spans (f.span x y stop s) (x + s.width) y stop rest

/-- Draws a title in a row of an area, in no more columns than are its width. -/
def title (f : Frame) (x y stop : Nat) (l : Line) : Frame := f.spans x y (min (x + l.width) stop) l

/-! ### Boxes -/

/-- Draws the border of an area. -/
def border (f : Frame) (a : Area) : Frame :=
  let columns := (List.range a.width).map (a.x + ·)
  let rows := (List.range a.height).map (a.y + ·)
  if a.width = 0 || a.height = 0 then f
  else
    let left := a.x
    let right := a.right - 1
    let upper := a.y
    let lower := a.bottom - 1
    let f := f.setAll (rows.map fun y => (left, y)) { text := "│" }
    let f := f.setAll (columns.map fun x => (x, upper)) { text := "─" }
    let f := f.setAll (rows.map fun y => (right, y)) { text := "│" }
    let f := f.setAll (columns.map fun x => (x, lower)) { text := "─" }
    let f := f.set right lower { text := "┘" }
    let f := f.set right upper { text := "┐" }
    let f := f.set left lower { text := "└" }
    f.set left upper { text := "┌" }

/-- Draws the border of an area with a title after its first corner. -/
def box (f : Frame) (a : Area) (title : Line) : Frame :=
  if a.height = 0 then f else (f.border a).title (a.x + 1) a.y (a.right - 1) title

/-! ### Reading -/

/-- The cells that can be seen after a cell. A wide text covers the cell after it. -/
def uncovered (before : Cell) : List Cell → List Cell
  | [] => []
  | c :: cs => (if before.isWide then {} else c) :: uncovered c cs

def row (f : Frame) (y : Nat) : List Cell := uncovered {} ((List.range f.width).map fun x => f.get x y)

/-- The text of every row, without the blanks at its end. -/
def rows (f : Frame) : List String :=
  (List.range f.height).map fun y =>
    String.ofList (((f.row y).map (·.text.toList)).flatten.reverse.dropWhile (· == ' ')).reverse

/-- Cells of one style that stand side by side. -/
structure Run where
  x : Nat
  length : Nat
  style : Style
deriving DecidableEq, Repr

/-- The runs of the cells from a column on. -/
def runsFrom (x : Nat) : List Cell → List Run
  | [] => []
  | c :: cs =>
    match runsFrom (x + 1) cs with
    | r :: rs => if r.style = c.style then { r with x, length := r.length + 1 } :: rs else ⟨x, 1, c.style⟩ :: r :: rs
    | [] => [⟨x, 1, c.style⟩]

/-- For every row, the runs in a style of their own. -/
def runs (f : Frame) : List (List Run) :=
  (List.range f.height).map fun y => (runsFrom 0 (f.row y)).filter (·.style ≠ {})

end Frame

end BenchCompare.Screen
