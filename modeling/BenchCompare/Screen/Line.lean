import BenchCompare.Text.Blank
import BenchCompare.Text.Width

/-!
# Styled text

A line is a list of spans, each a text in one style. `Line.pieces` cuts a line into what stands in one place of a
screen, and `fit` keeps what fits into so many columns.
-/

namespace BenchCompare.Screen

inductive Color where
  | yellow | gray | darkGray | green | red | cyan | blue
deriving DecidableEq, Repr

structure Style where
  color : Option Color := none
  bold : Bool := false
  reversed : Bool := false
deriving DecidableEq, Repr

/-- The style of a text that is drawn over another one. What it leaves open stays as it was. -/
def Style.over (s below : Style) : Style :=
  { color := s.color.or below.color, bold := s.bold || below.bold, reversed := s.reversed || below.reversed }

/-- A text in one style. -/
structure Span where
  text : String
  style : Style := {}
deriving DecidableEq, Repr

abbrev Line := List Span

def plain (text : String) : Span := { text }

def colored (color : Color) (text : String) : Span := { text, style := { color := some color } }

def headed (color : Color) (text : String) : Span := { text, style := { color := some color, bold := true } }

/-- What stands in one place of a screen. -/
structure Piece where
  text : String
  width : Nat
  /-- A line may be broken here. -/
  blank : Bool
  style : Style
deriving DecidableEq, Repr

namespace Piece

/-- The piece of a cluster. A space of no width is blank too, and one that keeps its neighbours together is not. -/
def ofCluster (style : Style) (cluster : List Char) : Piece :=
  { text := String.ofList cluster
    width := Text.width cluster
    blank := cluster == ['\u200B'] || (cluster.all Text.isBlank && cluster != ['\u00A0'])
    style }

/-- The columns of a row of pieces. -/
def totalWidth (ps : List Piece) : Nat := ps.foldr (fun p columns => p.width + columns) 0

/-- The first pieces, as far as they fit into so many columns. -/
def fit : Nat → List Piece → List Piece
  | _, [] => []
  | room, p :: ps => if p.width ≤ room then p :: fit (room - p.width) ps else []

/-- The pieces that can be seen in so many columns. One that is wider than all of them is passed over. -/
def visible (columns : Nat) (ps : List Piece) : List Piece :=
  fit columns (ps.filter fun p => 0 < p.width && p.width ≤ columns)

end Piece

/-- The columns of a span. -/
def Span.width (s : Span) : Nat := Text.width s.text.toList

/-- The pieces of a span. The end of a line is none. -/
def Span.pieces (s : Span) : List Piece :=
  ((Text.clusters s.text.toList).filter (· != ['\n'])).map (.ofCluster s.style)

/-- The columns of a line. -/
def Line.width (l : Line) : Nat := l.foldr (fun s columns => s.width + columns) 0

/-- The pieces of a line. -/
def Line.pieces (l : Line) : List Piece := l.flatMap Span.pieces

end BenchCompare.Screen
