import BenchCompare.Proofs.Double.Basic
import Mathlib.Data.Int.Log
import Mathlib.Data.Rat.Floor

/-!
# Rounding to doubles

* `roundEven x`: the natural nearest to `x`, the even one of two. `even_le_roundEven_iff`: where it reaches an even
  number.
* `Holds em x`: a mantissa and its two bits for the rest stand for `x`. `Holds.shiftRight`: shifting them is dividing by
  a power of two. `Holds.roundedMantissa`: rounding them is rounding `x`.
* `exponentOf x`: the exponent at which `x` is rounded, and `significand x` the mantissa.
* `nearest negative x`: the double nearest to `x` with a sign. `nearest_cases`: it is infinite from `limit` on.

Main statements: `ofFloat_pack_roundWithAccuracy`, `nearest_cases`, `zpow_le_rounded`.
-/

namespace BenchCompare.Double

open Float.Model (UnpackedFloat Format totalExponent)
open Float.Model.UnpackedFloat

/-! ### To the nearest natural -/

/-- The natural nearest to a number, and the even one of two. -/
def roundEven (x : ℚ) : ℕ :=
  let q := ⌊x⌋₊
  if x - q < 1 / 2 then q else if x - q = 1 / 2 then q + q % 2 else q + 1

theorem roundEven_natCast (n : ℕ) : roundEven n = n := by
  simp [roundEven]

theorem floor_le_roundEven (x : ℚ) : ⌊x⌋₊ ≤ roundEven x := by
  rw [roundEven]
  split_ifs <;> omega

theorem roundEven_le_floor_succ (x : ℚ) : roundEven x ≤ ⌊x⌋₊ + 1 := by
  rw [roundEven]
  split_ifs <;> omega

theorem le_roundEven {n : ℕ} {x : ℚ} (h : (n : ℚ) ≤ x) : n ≤ roundEven x :=
  (Nat.le_floor h).trans (floor_le_roundEven x)

theorem roundEven_le {n : ℕ} {x : ℚ} (hx : 0 ≤ x) (h : x ≤ n) : roundEven x ≤ n := by
  rcases h.lt_or_eq with h | rfl
  · exact (roundEven_le_floor_succ x).trans ((Nat.floor_lt hx).2 h)
  · exact (roundEven_natCast n).le

/-- An even number is reached from half below it on. -/
theorem even_le_roundEven_iff {n : ℕ} (hn : n % 2 = 0) {x : ℚ} (hx : 0 ≤ x) :
    n ≤ roundEven x ↔ (n : ℚ) - 1 / 2 ≤ x := by
  have hle := Nat.floor_le hx
  have hlt := Nat.lt_floor_add_one x
  rcases lt_trichotomy n (⌊x⌋₊ + 1) with h | h | h
  · have h' : (n : ℚ) ≤ ⌊x⌋₊ := by exact_mod_cast Nat.lt_succ_iff.1 h
    exact iff_of_true (le_roundEven (h'.trans hle)) (by linarith)
  · have hodd : ⌊x⌋₊ % 2 = 1 := by omega
    have hn' : (n : ℚ) = ⌊x⌋₊ + 1 := by exact_mod_cast h
    rw [roundEven, hn', hodd]
    split_ifs with h1 h2
    · exact iff_of_false (by omega) (by linarith)
    · exact iff_of_true h.le (by linarith)
    · exact iff_of_true h.le (by linarith [lt_of_le_of_ne (not_lt.1 h1) (Ne.symm h2)])
  · have h' : (⌊x⌋₊ : ℚ) + 1 + 1 ≤ n := by exact_mod_cast h
    exact iff_of_false (by have := roundEven_le_floor_succ x; omega) (by linarith)

/-! ### Mantissas with what is cut off -/

/-- The mantissa with its two bits for the rest stands for the number. -/
def Holds (em : ExtendedMantissa) (x : ℚ) : Prop :=
  ∃ rest : ℚ, 0 ≤ rest ∧ rest < 1 / 2 ∧ (em.stickyBit = false ↔ rest = 0) ∧
    x = em.mantissa + (if em.roundBit then 1 / 2 else 0) + rest

theorem Holds.shiftRightOne {em : ExtendedMantissa} {x : ℚ} (h : Holds em x) : Holds em.shiftRightOne (x / 2) := by
  obtain ⟨rest, h0, h1, hsticky, rfl⟩ := h
  obtain ⟨m, roundBit, stickyBit⟩ := em
  have hm : (m : ℚ) = 2 * (m / 2 : ℕ) + (m % 2 : ℕ) := by exact_mod_cast (Nat.div_add_mod m 2).symm
  refine ⟨((if roundBit then 1 / 2 else 0) + rest) / 2, ?_, ?_, ?_, ?_⟩
  · split_ifs <;> linarith
  · split_ifs <;> linarith
  · simp only [ExtendedMantissa.shiftRightOne] at hsticky ⊢
    cases roundBit <;> simp
    · rw [hsticky]
    · linarith
  · simp only [ExtendedMantissa.shiftRightOne] at hm ⊢
    rw [hm]
    rcases Nat.mod_two_eq_zero_or_one m with h | h <;> simp [h] <;> ring

theorem Holds.shiftRight {em : ExtendedMantissa} {x : ℚ} (h : Holds em x) (n : ℕ) :
    Holds (em >>> n) (x / 2 ^ n) := by
  change Holds (n.repeat ExtendedMantissa.shiftRightOne em) _
  induction n with
  | zero => simpa [Nat.repeat] using h
  | succ n ih =>
    rw [pow_succ, ← div_div]
    exact ih.shiftRightOne

theorem Holds.bounds {em : ExtendedMantissa} {x : ℚ} (h : Holds em x) :
    (em.mantissa : ℚ) ≤ x ∧ x < em.mantissa + 1 := by
  obtain ⟨rest, h0, h1, -, rfl⟩ := h
  constructor <;> split_ifs <;> linarith

/-- The two bits are all that rounding needs. -/
theorem Holds.roundedMantissa {em : ExtendedMantissa} {x : ℚ} (h : Holds em x) :
    em.roundedMantissa = roundEven x := by
  have hm : (0 : ℚ) ≤ em.mantissa := Nat.cast_nonneg _
  have hfloor : ⌊x⌋₊ = em.mantissa := (Nat.floor_eq_iff (hm.trans h.bounds.1)).2 h.bounds
  obtain ⟨rest, h0, h1, hsticky, hx⟩ := h
  obtain ⟨m, roundBit, stickyBit⟩ := em
  have hrest : x - m = (if roundBit then 1 / 2 else 0) + rest := by rw [hx]; ring
  rw [roundEven, hfloor, hrest]
  cases roundBit <;> cases stickyBit
  · obtain rfl : rest = 0 := hsticky.1 rfl
    rw [if_pos (by norm_num)]
    rfl
  · rw [if_pos (by simpa using h1)]
    rfl
  · obtain rfl : rest = 0 := hsticky.1 rfl
    rw [if_neg (by norm_num), if_pos (by norm_num)]
    rfl
  · have hpos : rest ≠ 0 := fun h => Bool.noConfusion (hsticky.2 h)
    rw [if_neg (by simp [h0]), if_neg (by simp [hpos])]
    rfl

/-! ### The exponent of a number -/

/-- The exponent at which a number is rounded: it leaves 53 bits, or fewer at the least exponent. -/
def exponentOf (x : ℚ) : ℤ := max (Int.log 2 x - 52) (-1074)

theorem lt_two_zpow_exponentOf (x : ℚ) : x / 2 ^ exponentOf x < 2 ^ 53 := by
  have hlog : x < 2 ^ (Int.log 2 x + 1) := by exact_mod_cast Int.lt_zpow_succ_log_self one_lt_two x
  rw [div_lt_iff₀ (by positivity), ← zpow_natCast, ← zpow_add₀ two_ne_zero]
  refine hlog.trans_le (zpow_le_zpow_right₀ one_le_two ?_)
  have := le_max_left (Int.log 2 x - 52) (-1074)
  rw [exponentOf]
  push_cast
  omega

theorem exponentOf_cases {x : ℚ} (hx : 0 < x) : exponentOf x = -1074 ∨ 2 ^ 52 ≤ x / 2 ^ exponentOf x := by
  rcases le_or_gt (Int.log 2 x - 52) (-1074) with h | h
  · exact .inl (max_eq_right h)
  · right
    have hlog : (2 : ℚ) ^ Int.log 2 x ≤ x := by exact_mod_cast Int.zpow_log_le_self one_lt_two hx
    rw [le_div_iff₀ (by positivity), ← zpow_natCast, ← zpow_add₀ two_ne_zero]
    refine (zpow_le_zpow_right₀ one_le_two ?_).trans hlog
    rw [exponentOf, max_eq_left h.le]
    push_cast
    omega

theorem targetExponent_eq (m : ℕ) (e : ℤ) :
    Format.binary64.targetExponent (totalExponent m e) = max (m.log2 + 1 + e - 53) (-1074) := rfl

/-- The target of a mantissa is that of the number whose first digits it has. -/
theorem targetExponent_eq_exponentOf {m : ℕ} {e : ℤ} {x : ℚ} (hpos : 0 < m) (hm : (m : ℚ) ≤ x / 2 ^ e)
    (hm' : x / 2 ^ e < m + 1) : Format.binary64.targetExponent (totalExponent m e) = exponentOf x := by
  rw [le_div_iff₀ (by positivity)] at hm
  rw [div_lt_iff₀ (by positivity)] at hm'
  have hx : 0 < x := lt_of_lt_of_le (by positivity) hm
  have hle : (2 : ℚ) ^ m.log2 ≤ m := by exact_mod_cast Nat.log2_self_le hpos.ne'
  have hlt : (m : ℚ) + 1 ≤ 2 ^ (m.log2 + 1) := by exact_mod_cast Nat.lt_log2_self
  have hlow : m.log2 + e ≤ Int.log 2 x := by
    refine (Int.zpow_le_iff_le_log one_lt_two hx).1 ?_
    calc ((2 : ℕ) : ℚ) ^ ((m.log2 : ℤ) + e) = 2 ^ m.log2 * 2 ^ e := by
          rw [Nat.cast_ofNat, zpow_add₀ two_ne_zero, zpow_natCast]
      _ ≤ m * 2 ^ e := by gcongr
      _ ≤ x := hm
  have hhigh : Int.log 2 x < m.log2 + e + 1 := by
    refine (Int.lt_zpow_iff_log_lt one_lt_two hx).1 ?_
    calc x < (m + 1) * 2 ^ e := hm'
      _ ≤ 2 ^ (m.log2 + 1) * 2 ^ e := by gcongr
      _ = ((2 : ℕ) : ℚ) ^ ((m.log2 : ℤ) + e + 1) := by
        rw [← zpow_natCast, ← zpow_add₀ two_ne_zero, Nat.cast_ofNat]
        congr 1
        push_cast
        ring
  rw [targetExponent_eq, exponentOf]
  omega

/-! ### Rounding -/

/-- A mantissa of 54 bits is written with one less. -/
def carry (m : ℕ) (e : ℤ) : ℕ × ℤ := if m = 2 ^ 53 then (2 ^ 52, e + 1) else (m, e)

theorem carry_value (m : ℕ) (e : ℤ) : ((carry m e).1 : ℚ) * 2 ^ (carry m e).2 = m * 2 ^ e := by
  rw [carry]
  split_ifs with h
  · rw [h, zpow_add₀ two_ne_zero]
    norm_num
    ring
  · rfl

theorem isCanonical_carry {m : ℕ} {e : ℤ} (hm : m ≤ 2 ^ 53) (he : -1074 ≤ e) (hfull : e = -1074 ∨ 2 ^ 52 ≤ m) :
    IsCanonical (carry m e).1 (carry m e).2 := by
  rw [carry]
  split_ifs with h
  · exact ⟨by norm_num, by dsimp only; omega, .inr le_rfl⟩
  · exact ⟨by dsimp only; omega, he, hfull⟩

/-- The second shift of a rounding makes room for a carry. -/
theorem shiftToTargetExponent_carry {m : ℕ} {e : ℤ} (hm : m ≤ 2 ^ 53) (he : -1074 ≤ e) :
    shiftToTargetExponent Format.binary64 m e .exact = (⟨(carry m e).1, false, false⟩, (carry m e).2) := by
  rw [shiftToTargetExponent, targetExponent_eq, shiftToExponent, carry]
  split_ifs with h
  · have hlog : m.log2 = 53 := by rw [h, Nat.log2_two_pow]
    have hshift : (max ((m.log2 : ℤ) + 1 + e - 53) (-1074) - e).toNat = 1 := by omega
    rw [hshift, h]
    rfl
  · have hlog : m.log2 < 53 := by
      rcases Nat.eq_zero_or_pos m with rfl | hpos
      · decide
      · exact (Nat.log2_lt hpos.ne').2 (by omega)
    have hshift : (max ((m.log2 : ℤ) + 1 + e - 53) (-1074) - e).toNat = 0 := by omega
    rw [hshift, Nat.cast_zero, add_zero]
    rfl

/-- The mantissa of a number after rounding. -/
def significand (x : ℚ) : ℕ := roundEven (x / 2 ^ exponentOf x)

/-- The double nearest to a number with a sign. Infinite where its exponent would be too large. -/
def nearest (negative : Bool) (x : ℚ) : Double :=
  let (m, e) := carry (significand x) (exponentOf x)
  if e ≤ 971 then .finite negative m e else .infinite negative

/-! ### The nearest double -/

theorem ofFloat_pack_zero (s : Sign) : ofFloat (.ofModel (.pack (.zero s))) = .finite (isNegative s) 0 (-1074) := by
  change ofBits (packComponents Format.binary64 s 0 0).toNat = _
  rw [ofBits_packComponents]
  rfl

theorem significand_le {x : ℚ} (hx : 0 < x) : significand x ≤ 2 ^ 53 :=
  roundEven_le (by positivity) (by exact_mod_cast (lt_two_zpow_exponentOf x).le)

theorem le_exponentOf (x : ℚ) : -1074 ≤ exponentOf x := le_max_right _ _

theorem significand_full {x : ℚ} (hx : 0 < x) : exponentOf x = -1074 ∨ 2 ^ 52 ≤ significand x :=
  (exponentOf_cases hx).imp_right fun h => le_roundEven (by exact_mod_cast h)

theorem shiftToTargetExponent_holds {m : ℕ} {e : ℤ} {acc : Accuracy} {x : ℚ} (hx : 0 < x)
    (h : Holds (.ofMantissaAndAccuracy m acc) (x / 2 ^ e))
    (he : e ≤ Format.binary64.targetExponent (totalExponent m e)) :
    ∃ em, shiftToTargetExponent Format.binary64 m e acc = (em, exponentOf x) ∧ Holds em (x / 2 ^ exponentOf x) := by
  have hm : (ExtendedMantissa.ofMantissaAndAccuracy m acc).mantissa = m := by
    rcases acc with _ | (_ | _ | _) <;> rfl
  obtain ⟨hle, hlt⟩ := h.bounds
  rw [hm] at hle hlt
  have htarget : Format.binary64.targetExponent (totalExponent m e) = exponentOf x := by
    rcases Nat.eq_zero_or_pos m with rfl | hpos
    · -- the number is below the least double
      have hlog : Int.log 2 x < e := by
        refine (Int.lt_zpow_iff_log_lt one_lt_two hx).1 ?_
        rw [div_lt_iff₀ (by positivity)] at hlt
        simpa using hlt
      rw [targetExponent_eq, Nat.log2_zero, Nat.cast_zero] at he ⊢
      rw [exponentOf]
      omega
    · exact targetExponent_eq_exponentOf hpos hle hlt
  rw [htarget] at he
  refine ⟨ExtendedMantissa.ofMantissaAndAccuracy m acc >>> (exponentOf x - e).toNat, ?_, ?_⟩
  · rw [shiftToTargetExponent, htarget, shiftToExponent, Int.toNat_of_nonneg (by omega), add_sub_cancel]
  · have hpow : (2 : ℚ) ^ exponentOf x = 2 ^ e * 2 ^ (exponentOf x - e).toNat := by
      rw [← zpow_natCast, ← zpow_add₀ two_ne_zero, Int.toNat_of_nonneg (by omega), add_sub_cancel]
    rw [hpow, ← div_div]
    exact h.shiftRight _

/-- **The rounding of unpacked floats is the nearest double.** -/
theorem ofFloat_pack_roundWithAccuracy {m : ℕ} {e : ℤ} {acc : Accuracy} {x : ℚ} (s : Sign) (hx : 0 < x)
    (h : Holds (.ofMantissaAndAccuracy m acc) (x / 2 ^ e))
    (he : e ≤ Format.binary64.targetExponent (totalExponent m e)) :
    ofFloat (.ofModel (.pack (roundWithAccuracy Format.binary64 s m e acc))) = nearest (isNegative s) x := by
  obtain ⟨em, hshift, hem⟩ := shiftToTargetExponent_holds hx h he
  have hcanonical := isCanonical_carry (significand_le hx) (le_exponentOf x) (significand_full hx)
  rw [roundWithAccuracy, hshift]
  dsimp only
  rw [hem.roundedMantissa, ← significand, shiftToTargetExponent_carry (significand_le hx) (le_exponentOf x), nearest]
  dsimp only
  by_cases hzero : (carry (significand x) (exponentOf x)).1 = 0
  · have hexponent := hcanonical.full.resolve_right (by rw [hzero]; norm_num)
    rw [dif_pos hzero, ofFloat_pack_zero, hzero, hexponent]
    rfl
  · rw [dif_neg hzero, ofFloat_pack_finite _ _ hcanonical]

/-! ### Range -/

/-- The least number that is rounded to infinity: half a unit beyond the greatest double. -/
def limit : ℚ := (2 ^ 53 - 1 / 2) * 2 ^ (971 : ℤ)

theorem limit_lt : limit < 2 ^ (1024 : ℤ) :=
  calc limit < 2 ^ 53 * 2 ^ (971 : ℤ) := by rw [limit]; gcongr; norm_num
    _ = 2 ^ (1024 : ℤ) := by rw [← zpow_natCast, ← zpow_add₀ two_ne_zero]; rfl

theorem le_limit : 2 ^ (1023 : ℤ) ≤ limit :=
  calc (2 : ℚ) ^ (1023 : ℤ) = 2 ^ 52 * 2 ^ (971 : ℤ) := by rw [← zpow_natCast, ← zpow_add₀ two_ne_zero]; rfl
    _ ≤ limit := by rw [limit]; gcongr; norm_num

/-- A number below the limit keeps the exponent of a double. -/
theorem carry_le_iff {x : ℚ} (hx : 0 < x) : (carry (significand x) (exponentOf x)).2 ≤ 971 ↔ x < limit := by
  have hle := significand_le hx
  have hlog : exponentOf x = max (Int.log 2 x - 52) (-1074) := rfl
  rcases lt_trichotomy (exponentOf x) 971 with he | he | he
  · have hx' : x < 2 ^ (1023 : ℤ) := (Int.lt_zpow_iff_log_lt one_lt_two hx).2 (by omega)
    refine iff_of_true ?_ (hx'.trans_le le_limit)
    rw [carry]
    split_ifs <;> dsimp only <;> omega
  · have hnear : 2 ^ 53 ≤ significand x ↔ limit ≤ x := by
      rw [significand, he, limit, even_le_roundEven_iff (by norm_num) (by positivity), le_div_iff₀ (by positivity)]
      norm_num
    rw [← not_le (a := limit), ← hnear, carry, he]
    split_ifs with h <;> simp <;> omega
  · have hx' : 2 ^ (1024 : ℤ) ≤ x := (Int.zpow_le_iff_le_log one_lt_two hx).2 (by omega)
    refine iff_of_false ?_ (limit_lt.le.trans hx').not_gt
    rw [carry]
    split_ifs <;> dsimp only <;> omega

def rounded (x : ℚ) : ℚ := significand x * 2 ^ exponentOf x

/-- **The nearest double** is infinite from the limit on, and a multiple of the unit of the number below it. -/
theorem nearest_cases (negative : Bool) {x : ℚ} (hx : 0 < x) :
    (x < limit ∧ ∃ m e, nearest negative x = .finite negative m e ∧ (m : ℚ) * 2 ^ e = rounded x) ∨
    (limit ≤ x ∧ nearest negative x = .infinite negative) := by
  have hlimit := carry_le_iff hx
  rw [nearest]
  dsimp only
  by_cases h : (carry (significand x) (exponentOf x)).2 ≤ 971
  · rw [if_pos h]
    exact .inl ⟨hlimit.1 h, _, _, rfl, carry_value _ _⟩
  · rw [if_neg h]
    exact .inr ⟨not_lt.1 (mt hlimit.2 h), rfl⟩

/-- **Rounding does not pass a power of two from above**, if it is a double. -/
theorem zpow_le_rounded {x : ℚ} {k : ℤ} (hk : -1074 ≤ k) (h : 2 ^ k ≤ x) : 2 ^ k ≤ rounded x := by
  have hx : 0 < x := lt_of_lt_of_le (by positivity) h
  have hunit : exponentOf x = -1074 ∨ 2 ^ exponentOf x ≤ x := by
    refine (exponentOf_cases hx).imp_right fun he => ?_
    rw [← one_le_div (by positivity)]
    exact le_trans (by norm_num) he
  -- the power is at least the unit of the number, which itself does not exceed the number
  obtain ⟨n, hn⟩ : ∃ n : ℕ, max k (exponentOf x) = n + exponentOf x :=
    ⟨(max k (exponentOf x) - exponentOf x).toNat, by omega⟩
  have hmax : 2 ^ (n + exponentOf x) ≤ x := by
    rw [← hn]
    rcases le_total k (exponentOf x) with hke | hke
    · rw [max_eq_right hke]
      rcases hunit with he | he
      · obtain rfl : k = exponentOf x := by omega
        exact h
      · exact he
    · rwa [max_eq_left hke]
  have hsignificand : 2 ^ n ≤ significand x := by
    refine le_roundEven ?_
    rw [le_div_iff₀ (by positivity), Nat.cast_pow, Nat.cast_ofNat, ← zpow_natCast, ← zpow_add₀ two_ne_zero]
    exact hmax
  calc (2 : ℚ) ^ k ≤ 2 ^ ((n : ℤ) + exponentOf x) := zpow_le_zpow_right₀ one_le_two (hn ▸ le_max_left _ _)
    _ = 2 ^ n * 2 ^ exponentOf x := by rw [zpow_add₀ two_ne_zero, zpow_natCast]
    _ ≤ significand x * 2 ^ exponentOf x := by gcongr; exact_mod_cast hsignificand

end BenchCompare.Double
