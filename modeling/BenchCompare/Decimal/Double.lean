/-!
# Doubles as binary numbers

`Double.ofFloat` shows what a `Float` stands for: a signed integer times a power of two, an infinity, or no
number at all.
-/

namespace BenchCompare

inductive Double where
  /-- The number `mantissa * 2 ^ exponent` with a sign. -/
  | finite (negative : Bool) (mantissa : Nat) (exponent : Int)
  | infinite (negative : Bool)
  | notANumber
deriving DecidableEq, Repr

namespace Double

/-- The number that a bit pattern stands for: one sign bit, eleven exponent bits, 52 fraction bits. -/
def ofBits (bits : Nat) : Double :=
  let negative := bits / Nat.pow 2 63 % 2 == 1
  let biased : Nat := bits / Nat.pow 2 52 % Nat.pow 2 11
  let fraction : Nat := bits % Nat.pow 2 52
  if biased == 2047 then if fraction == 0 then .infinite negative else .notANumber
  else if biased == 0 then .finite negative fraction (-1074)
  else .finite negative (Nat.pow 2 52 + fraction) ((biased : Int) - 1075)

def ofFloat (x : Float) : Double := ofBits x.toBits.toNat

/-- The magnitude `mantissa * 2 ^ exponent` as a quotient of naturals. -/
def quotient (mantissa : Nat) (exponent : Int) : Nat × Nat :=
  if 0 ≤ exponent then (mantissa * Nat.pow 2 exponent.toNat, 1) else (mantissa, Nat.pow 2 (-exponent).toNat)

/-- A whole number of magnitude below `bound`. -/
def isWholeBelow (bound : Nat) : Double → Bool
  | .finite _ m e => let (num, den) := quotient m e; num % den == 0 && num < bound * den
  | _ => false

end Double

end BenchCompare
