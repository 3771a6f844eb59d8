import BenchCompare.Decimal.Shortest

/-!
# Numerals

* `Numeral`: a numeral of a JSON text, digit for digit.
* `Numeral.toFloat?`: the double that it is read as, by scaling.
* `Numeral.ofFloat?`: the numeral that a finite double is written as, with the fewest digits.
-/

namespace BenchCompare

/-- The exponent of a numeral. -/
structure Exponent where
  negative : Bool
  digits : List Nat
deriving DecidableEq, Repr

/-- A sign, digits before and after the point, and an exponent. No digits after the point means no point. -/
structure Numeral where
  negative : Bool
  whole : List Nat
  fraction : List Nat := []
  exponent : Option Exponent := none
deriving DecidableEq, Repr

namespace Numeral

/-- The number that digits spell. -/
def ofDigits (ds : List Nat) : Nat := ds.foldl (fun n d => 10 * n + d) 0

/-- Puts digits onto a number as long as it stays below `2 ^ 64`. Gives the number and the digits left over. -/
def take64 (n : Nat) : List Nat → Nat × List Nat
  | [] => (n, [])
  | d :: ds => if 10 * n + d < 2 ^ 64 then take64 (10 * n + d) ds else (n, d :: ds)

/-- The power of ten as a double. -/
def powerOfTen (n : Nat) : Float := Float.ofScientific 1 false n

/-- A double times a power of ten, in steps of at most 308 places. None if it grows past every double. -/
def scale (x : Float) (exponent : Int) : Option Float :=
  if 0 ≤ exponent then
    if x == 0.0 && exponent > 308 then some x
    else if exponent > 308 then none
    else
      let y := x * powerOfTen exponent.toNat
      if y.isInf then none else some y
  else some (shrink x (-exponent).toNat)
where
  /-- A double divided by a power of ten. -/
  shrink (x : Float) (places : Nat) : Float :=
    if places ≤ 308 then x / powerOfTen places
    else if x == 0.0 then x
    else shrink (x / powerOfTen 308) (places - 308)
  termination_by places

/-- The exponent as a number. -/
def Exponent.toInt (e : Exponent) : Int := if e.negative then -(ofDigits e.digits : Int) else ofDigits e.digits

/-- The double that a numeral is read as: its first digits as a number of 64 bits, times a power of ten. -/
def toFloat? (n : Numeral) : Option Float :=
  let (head, cut) := take64 0 n.whole
  let (head, places) :=
    match take64 head n.fraction with
    | (more, left) => (more, n.fraction.length - left.length)
  let exponent : Int := (cut.length : Int) - places + (n.exponent.map Exponent.toInt).getD 0
  let x := head.toUInt64.toFloat
  let size := if n.fraction.isEmpty && n.exponent.isNone && cut.isEmpty then some x else scale x exponent
  size.map fun y => if n.negative then -y else y

/-- The digits of a number. -/
def digits (n : Nat) : List Nat := (Nat.toDigits 10 n).map fun c => c.toNat - 0x30

/-- The numeral of a decimal: positional as long as the point stands at most 16 places after and at most four
places before the first digit, else with one digit before the point and an exponent. -/
def ofDecimal (negative : Bool) (d : Decimal) : Numeral :=
  let ds := digits d.digits
  let point : Int := ds.length + d.exponent
  if d.digits == 0 then { negative, whole := [0], fraction := [0] }
  else if 0 ≤ d.exponent && point ≤ 16 then
    { negative, whole := ds ++ List.replicate d.exponent.toNat 0, fraction := [0] }
  else if 0 < point && point ≤ 16 then
    { negative, whole := ds.take point.toNat, fraction := ds.drop point.toNat }
  else if -5 < point && point ≤ 0 then
    { negative, whole := [0], fraction := List.replicate (-point).toNat 0 ++ ds }
  else
    { negative, whole := ds.take 1, fraction := ds.drop 1,
      exponent := some { negative := point - 1 < 0, digits := digits (point - 1).natAbs } }

/-- The numeral of a finite double. -/
def ofFloat? (x : Float) : Option Numeral :=
  match Double.ofFloat x with
  | .finite negative m e => some (ofDecimal negative (Decimal.shortest m e))
  | _ => none

def digitText (ds : List Nat) : String := String.ofList (ds.map fun d => Char.ofNat (0x30 + d))

/-- The numeral as it is written, with a sign before every exponent. -/
def toText (n : Numeral) : String :=
  (if n.negative then "-" else "") ++ digitText n.whole
    ++ (if n.fraction.isEmpty then "" else "." ++ digitText n.fraction)
    ++ (match n.exponent with
      | none => ""
      | some e => (if e.negative then "e-" else "e+") ++ digitText e.digits)

end Numeral

end BenchCompare
