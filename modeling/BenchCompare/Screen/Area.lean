/-!
# Areas of a screen

An area is a rectangle of cells. It is divided from the top or the bottom by so many rows, or into columns of equal
width.
-/

namespace BenchCompare.Screen

structure Area where
  x : Nat
  y : Nat
  width : Nat
  height : Nat
deriving DecidableEq, Repr

namespace Area

/-- The first column after the area. -/
def right (a : Area) : Nat := a.x + a.width

/-- The first row after the area. -/
def bottom (a : Area) : Nat := a.y + a.height

/-- The area within a border of one cell. -/
def inner (a : Area) : Area := { x := a.x + 1, y := a.y + 1, width := a.width - 2, height := a.height - 2 }

/-- The first `n` rows, as far as there are so many. -/
def top (a : Area) (n : Nat) : Area := { a with height := min n a.height }

/-- The rows after the first `n`. -/
def belowTop (a : Area) (n : Nat) : Area :=
  { a with y := a.y + min n a.height, height := a.height - n }

/-- The rows before the last `n`. -/
def aboveFoot (a : Area) (n : Nat) : Area := { a with height := a.height - n }

/-- The last `n` rows, as far as there are so many. -/
def foot (a : Area) (n : Nat) : Area := { a with y := a.y + (a.height - n), height := min n a.height }

/-- The column at which the `i`-th of `n` equal parts begins, rounded to the nearest, a half upwards. -/
def cutAt (width n i : Nat) : Nat := (2 * i * width + n) / (2 * n)

/-- The area in `n` columns of equal width, as far as that is possible. -/
def columns (a : Area) (n : Nat) : List Area :=
  (List.range n).map fun i =>
    { a with x := a.x + cutAt a.width n i, width := cutAt a.width n (i + 1) - cutAt a.width n i }

/-- An area in the middle, smaller by three cells on each side, within a least and a greatest size. -/
def dialog (a : Area) : Area :=
  let width := min (max (a.width - 6) 20) 72
  let height := min (max (a.height - 6) 8) 22
  { x := a.x + (a.width - width) / 2, y := a.y + (a.height - height) / 2,
    width := min width a.width, height := min height a.height }

end Area

end BenchCompare.Screen
