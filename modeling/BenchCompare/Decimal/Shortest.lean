import BenchCompare.Decimal.Double

/-!
# Shortest decimals

`Decimal.shortest` gives the decimal with the fewest digits among those that round to a double, and the nearest
of these to it; of two that are equally near, the one whose last digit is even.

A double stands for all reals nearer to it than to its neighbours, and for the two midpoints if its mantissa is
even. The digits are tried in order of their number: on the grid of numbers with `n` digits only the two
neighbours of the double can be the answer.
-/

namespace BenchCompare

/-- The decimal `digits * 10 ^ exponent`. -/
structure Decimal where
  digits : Nat
  exponent : Int
deriving DecidableEq, Repr

namespace Decimal

/-- The decimal as a quotient of naturals. -/
def quotient (d : Decimal) : Nat × Nat :=
  if 0 ≤ d.exponent then (d.digits * Nat.pow 10 d.exponent.toNat, 1) else (d.digits, Nat.pow 10 (-d.exponent).toNat)

/-- The decimal without zeros at its end, at most so many of them. -/
def stripZeros : Nat → Decimal → Decimal
  | 0, d => d
  | n + 1, d =>
    if d.digits % 10 == 0 && d.digits != 0 then stripZeros n ⟨d.digits / 10, d.exponent + 1⟩ else d

/-- The number of decimal digits of `n`, one for zero. -/
def digitCount (n : Nat) : Nat := (Nat.toDigits 10 n).length

/-- The least `k` such that `num / den < 10 ^ k`, for a quotient that is not zero. -/
def pointOf (num den : Nat) : Int :=
  if den ≤ num then digitCount (num / den) else 1 - (digitCount ((den - 1) / num) : Int)

/-- The reals that round to a double, as quotients over `den`. -/
structure Interval where
  low : Nat
  value : Nat
  high : Nat
  den : Nat
  closed : Bool

/-- The reals that round to `mantissa * 2 ^ exponent`. Below a power of two the neighbour is twice as near. -/
def Interval.ofDouble (mantissa : Nat) (exponent : Int) : Interval :=
  let (num, den) := Double.quotient 1 (exponent - 2)
  let below := if mantissa == Nat.pow 2 52 && exponent > -1074 then 1 else 2
  { low := (4 * mantissa - below) * num, value := 4 * mantissa * num, high := (4 * mantissa + 2) * num, den,
    closed := mantissa % 2 == 0 }

/-- The quotient `num / den` rounds to the double. -/
def Interval.holds (i : Interval) (num den : Nat) : Bool :=
  let x := num * i.den
  if i.closed then i.low * den ≤ x && x ≤ i.high * den else i.low * den < x && x < i.high * den

/-- The distance of a decimal from the double, over the product of both denominators. -/
def Interval.distance (i : Interval) (d : Decimal) : Nat :=
  let (num, den) := d.quotient
  (num * i.den - i.value * den) + (i.value * den - num * i.den)

/-- The better of two neighbouring decimals of one grid, if one of them rounds to the double. -/
def Interval.nearest? (i : Interval) (down up : Decimal) : Option Decimal :=
  let fits (d : Decimal) : Bool := let (num, den) := d.quotient; i.holds num den
  match fits down, fits up with
  | false, false => none
  | true, false => some down
  | false, true => some up
  | true, true =>
    if i.distance down < i.distance up then some down
    else if i.distance up < i.distance down then some up
    else if down.digits % 2 == 0 then some down else some up

/-- The best decimal with `n` digits, if one of them rounds to the double. -/
def Interval.withDigits? (i : Interval) (n : Nat) : Option Decimal :=
  let exponent := pointOf i.value i.den - (n : Int)
  let (num, den) := quotient ⟨1, -exponent⟩
  let down := i.value * num / (i.den * den)
  i.nearest? ⟨down, exponent⟩ ⟨down + 1, exponent⟩

/-- The shortest decimal that rounds to `mantissa * 2 ^ exponent`; seventeen digits always do. -/
def shortest (mantissa : Nat) (exponent : Int) : Decimal :=
  if mantissa == 0 then ⟨0, 0⟩
  else
    let i := Interval.ofDouble mantissa exponent
    let d := ((List.range 17).findSome? fun n => i.withDigits? (n + 1)).getD ⟨0, 0⟩
    d.stripZeros 20

end Decimal

end BenchCompare
