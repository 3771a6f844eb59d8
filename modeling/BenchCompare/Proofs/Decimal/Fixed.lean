import BenchCompare.Decimal.Fixed
import BenchCompare.Proofs.Double.Range
import Mathlib.Algebra.Order.Floor.Semifield

/-!
# How long a decimal with fixed places is

* `Double.quotient_eq`: the quotient of a double is its magnitude. `roundQuotient_eq`: it is rounded to the nearest
  natural. `isWholeBelow_iff`: when it is a natural below a bound.
* `length_withPlaces_le_iff`: when a numeral keeps to so many digits before the point.

Main statement: `length_fixed_le_iff`.
-/

namespace BenchCompare

/-! ### The quotient of a double -/

namespace Double

variable (m : ℕ) (e : ℤ)

theorem quotient_den_pos : 0 < (quotient m e).2 := by
  unfold quotient
  split
  · exact Nat.one_pos
  · exact Nat.pow_pos Nat.two_pos

theorem quotient_eq : ((quotient m e).1 : ℚ) / (quotient m e).2 = m * 2 ^ e := by
  unfold quotient
  split
  · next he =>
    have hpow : (2 : ℚ) ^ e = 2 ^ e.toNat := by rw [← zpow_natCast, Int.toNat_of_nonneg he]
    simp [hpow]
  · next he =>
    have hpow : (2 : ℚ) ^ e = (2 ^ (-e).toNat)⁻¹ := by
      rw [← zpow_natCast, Int.toNat_of_nonneg (by omega), zpow_neg, inv_inv]
    simp [hpow, div_eq_mul_inv]

variable {m e}

section Finite

variable {x : Float} {negative : Bool} (h : ofFloat x = .finite negative m e)
include h

theorem abs_value : |value x| = m * 2 ^ e := by
  rw [value, h, toRat, abs_signed, abs_of_nonneg (by positivity)]

/-- A double is a natural or its negative if the remainder of its quotient is zero. -/
theorem isWholeBelow_iff (bound : ℕ) :
    isWholeBelow bound (ofFloat x) = true ↔ (value x).den = 1 ∧ |value x| < bound := by
  have hden := quotient_den_pos m e
  have hden' : (0 : ℚ) < (quotient m e).2 := by exact_mod_cast hden
  have habs : |value x| = ((quotient m e).1 : ℚ) / (quotient m e).2 := by rw [abs_value h, quotient_eq]
  have hwhole : (value x).den = 1 ↔ (quotient m e).1 % (quotient m e).2 = 0 := by
    rw [← Rat.den_abs_eq_den, habs, Rat.den_div_natCast_eq_one_iff _ _ hden.ne', Nat.dvd_iff_mod_eq_zero]
  have hbelow : |value x| < bound ↔ (quotient m e).1 < bound * (quotient m e).2 := by
    rw [habs, div_lt_iff₀ hden']
    exact_mod_cast Iff.rfl
  rw [h, isWholeBelow, hwhole, hbelow]
  simp

end Finite

end Double

namespace Decimal

/-! ### Rounding and digits -/

theorem roundQuotient_eq (num : ℕ) {den : ℕ} (h : 0 < den) :
    roundQuotient num den = Double.roundEven (num / den) := by
  have hden : (0 : ℚ) < den := by exact_mod_cast h
  have hfloor : ⌊(num / den : ℚ)⌋₊ = num / den := Nat.floor_div_eq_div num den
  have hrest : (num / den : ℚ) - (num / den : ℕ) = (num % den : ℕ) / den := by
    have hsplit : (num : ℚ) = den * (num / den : ℕ) + (num % den : ℕ) := by
      exact_mod_cast (Nat.div_add_mod num den).symm
    rw [sub_eq_iff_eq_add', div_eq_iff hden.ne', add_mul, div_mul_cancel₀ _ hden.ne']
    linarith
  have hlt : ((num % den : ℕ) / den : ℚ) < 1 / 2 ↔ 2 * (num % den) < den := by
    rw [div_lt_div_iff₀ hden two_pos, mul_comm, one_mul]
    exact_mod_cast Iff.rfl
  have heq : ((num % den : ℕ) / den : ℚ) = 1 / 2 ↔ 2 * (num % den) = den := by
    rw [div_eq_div_iff hden.ne' two_ne_zero, mul_comm, one_mul]
    exact_mod_cast Iff.rfl
  rw [Double.roundEven, hfloor, hrest, roundQuotient]
  simp only [hlt, heq]
  split_ifs <;> omega

theorem length_numeral_le_iff {n k : ℕ} (hk : 0 < k) : (numeral n).length ≤ k ↔ n < 10 ^ k := by
  rw [numeral, String.length_ofList]
  exact Nat.length_toDigits_le_iff (by decide) hk

/-- The characters behind the whole part: none without places, else the point and the places. -/
def tailLength (places : ℕ) : ℕ := if places = 0 then 0 else places + 1

theorem length_withPlaces (places n : ℕ) :
    (withPlaces places n).length = (numeral (n / 10 ^ places)).length + tailLength places := by
  by_cases h : places = 0
  · rw [withPlaces, tailLength, h]
    simp
  · have hrest : (numeral (n % 10 ^ places)).length ≤ places :=
      (length_numeral_le_iff (Nat.pos_of_ne_zero h)).2 (Nat.mod_lt n (by positivity))
    rw [withPlaces, tailLength, if_neg h, if_neg (by simpa using h)]
    have hpoint : ".".length = 1 := rfl
    simp only [Nat.pow_eq, String.length_append, String.length_ofList, List.length_replicate, hpoint]
    omega

theorem length_withPlaces_le_iff (places n : ℕ) {k : ℕ} (hk : 0 < k) :
    (withPlaces places n).length ≤ k + tailLength places ↔ n < 10 ^ (k + places) := by
  rw [length_withPlaces, Nat.add_le_add_iff_right, length_numeral_le_iff hk, Nat.div_lt_iff_lt_mul (by positivity),
    pow_add]

/-- **A decimal keeps to `k` digits before the point exactly if it is not rounded up to `10 ^ k`.** -/
theorem length_fixed_le_iff {x : Float} {negative : Bool} {m : ℕ} {e : ℤ} (h : Double.ofFloat x = .finite negative m e)
    (places : ℕ) (plus : Bool) {k : ℕ} (hk : 0 < k) :
    (fixed places plus x).length ≤ (sign plus negative).length + k + tailLength places ↔
      |Double.value x| < 10 ^ k - 1 / 2 / 10 ^ places := by
  have hden := Double.quotient_den_pos m e
  have hpow : (0 : ℚ) < 10 ^ places := by positivity
  have heven : 10 ^ (k + places) % 2 = 0 := by
    rw [Nat.pow_mod]
    simp [Nat.zero_pow (Nat.add_pos_left hk places)]
  have hscaled : (((Double.quotient m e).1 * Nat.pow 10 places : ℕ) / (Double.quotient m e).2 : ℚ) =
      |Double.value x| * 10 ^ places := by
    rw [Double.abs_value h, ← Double.quotient_eq, Nat.pow_eq]
    push_cast
    ring
  have hbound : (10 ^ k - 1 / 2 / 10 ^ places : ℚ) * 10 ^ places = 10 ^ (k + places) - 1 / 2 := by
    rw [sub_mul, div_mul_cancel₀ _ hpow.ne', pow_add]
  have hnonneg : 0 ≤ |Double.value x| * 10 ^ places := by positivity
  rw [fixed, h]
  dsimp only
  rw [String.length_append, Nat.add_assoc, Nat.add_le_add_iff_left, length_withPlaces_le_iff _ _ hk,
    roundQuotient_eq _ hden, hscaled, ← not_le, Double.even_le_roundEven_iff heven hnonneg, not_le]
  push_cast
  rw [← hbound, mul_lt_mul_iff_of_pos_right hpow]

end Decimal

end BenchCompare
