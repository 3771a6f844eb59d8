import BenchCompare.Decimal.Double

/-!
# Decimals with fixed places

* `Decimal.roundQuotient`: a quotient rounded to the nearest natural, a half to the even one.
* `Decimal.fixed`: a double with a fixed number of places, rounded from its exact value.
-/

namespace BenchCompare.Decimal

/-- The natural nearest to `num / den`, and the even one of two. -/
def roundQuotient (num den : Nat) : Nat :=
  let q := num / den
  let twice := 2 * (num % den)
  if twice < den then q else if den < twice then q + 1 else q + q % 2

/-- The decimal numeral of `n`. -/
def numeral (n : Nat) : String := String.ofList (Nat.toDigits 10 n)

/-- The numeral of `n / 10 ^ places` with that many places. -/
def withPlaces (places n : Nat) : String :=
  if places == 0 then numeral n
  else
    let rest := numeral (n % Nat.pow 10 places)
    numeral (n / Nat.pow 10 places) ++ "." ++ String.ofList (List.replicate (places - rest.length) '0') ++ rest

/-- The sign in front of a number; a plus sign only where one is asked for. -/
def sign (plus negative : Bool) : String := if negative then "-" else if plus then "+" else ""

/-- The double with this many places. -/
def fixed (places : Nat) (plus : Bool) (x : Float) : String :=
  match Double.ofFloat x with
  | .finite negative m e =>
    let (num, den) := Double.quotient m e
    sign plus negative ++ withPlaces places (roundQuotient (num * Nat.pow 10 places) den)
  | .infinite negative => sign plus negative ++ "inf"
  | .notANumber => "NaN"

end BenchCompare.Decimal
