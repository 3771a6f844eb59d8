import BenchCompare.Screen.Line

/-!
# Wrapping at words

`wrap` sets a text in lines of a given width. A line takes as many words as fit, the blank at a break is dropped,
and a word that is longer than a line is cut.
-/

namespace BenchCompare.Screen

/-- Lines that are being set: the finished ones, and the pieces of the last one. -/
structure Wrapping where
  finished : List (List Piece) := []
  current : List Piece := []
deriving Repr

namespace Wrapping

/-- Sets a piece, on a new line where the last one has no room for it. -/
def cut (width : Nat) (w : Wrapping) (p : Piece) : Wrapping :=
  if Piece.totalWidth w.current + p.width ≤ width then { w with current := w.current ++ [p] }
  else { finished := w.finished ++ [w.current], current := [p] }

/-- Sets a word after a blank, on a new line where the last one has no room for both. -/
def next (width : Nat) (w : Wrapping) (blank : Piece) (word : List Piece) : Wrapping :=
  if Piece.totalWidth w.current + blank.width + Piece.totalWidth word ≤ width then
    { w with current := w.current ++ blank :: word }
  else word.foldl (cut width) { finished := w.finished ++ [w.current] }

def lines (w : Wrapping) : List (List Piece) := w.finished ++ [w.current]

end Wrapping

/-- The pieces up to the first blank, and every later word with the blank in front of it. -/
def splitWords : List Piece → List Piece × List (Piece × List Piece)
  | [] => ([], [])
  | p :: ps =>
    let (word, others) := splitWords ps
    if p.blank then ([], (p, word) :: others) else (p :: word, others)

/-- The pieces in lines of a width. -/
def wrap (width : Nat) (pieces : List Piece) : List (List Piece) :=
  let (first, others) := splitWords pieces
  (others.foldl (fun w o => w.next width o.1 o.2) (first.foldl (Wrapping.cut width) {})).lines

end BenchCompare.Screen
