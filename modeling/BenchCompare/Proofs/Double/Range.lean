import BenchCompare.Proofs.Double.Arithmetic
import Mathlib.Data.Sign.Basic

/-!
# Range and sign of doubles

* `IsFinite d`: the double stands for a number. `IsRounding.isFinite_iff`: a rounding does so below the limit.
* `sgn d`: the sign of a double. `IsRounding.sgn_eq`: rounding keeps it unless the number is smaller than every double.
* `spacing`: two doubles that differ do so by half a unit of the second one at least.

Main statement: `sgn_change`.
-/

namespace BenchCompare.Double

open Float.Model (UnpackedFloat)
open Float.Model.UnpackedFloat

/-! ### Finite doubles -/

def IsFinite : Double → Prop
  | .finite _ _ _ => True
  | _ => False

theorem isFinite_iff {x : Float} : x.isFinite = true ↔ (ofFloat x).IsFinite := by
  rw [ofFloat_eq]
  change x.toModel.unpack.isFinite = true ↔ _
  cases x.toModel.unpack with
  | infinity | notANumber => exact iff_of_false Bool.false_ne_true id
  | zero | finite => exact iff_of_true rfl trivial

theorem limit_pos : 0 < limit := lt_of_lt_of_le (by positivity) le_limit

theorem ofRat_cases {x : ℚ} (hx : x ≠ 0) :
    (|x| < limit ∧ ∃ m e, ofRat x = .finite (decide (x < 0)) m e ∧ (m : ℚ) * 2 ^ e = rounded |x|) ∨
    (limit ≤ |x| ∧ ofRat x = .infinite (decide (x < 0))) :=
  nearest_cases _ (abs_pos.2 hx)

theorem IsRounding.toRat_eq_zero {x : ℚ} {d : Double} (h : IsRounding x d) (hx : x = 0) : d.toRat = 0 := by
  cases h with
  | zero _ negative => cases negative <;> simp [toRat, signed]
  | nearest hne => exact absurd hx hne

/-- **A rounding is finite below the limit** and infinite from there on. -/
theorem IsRounding.isFinite_iff {x : ℚ} {d : Double} (h : IsRounding x d) : d.IsFinite ↔ |x| < limit := by
  cases h with
  | zero hx negative => exact iff_of_true trivial (by rw [hx, abs_zero]; exact limit_pos)
  | nearest hx =>
    rcases ofRat_cases hx with ⟨hlt, m, e, hd, -⟩ | ⟨hle, hd⟩
    · rw [hd]
      exact iff_of_true trivial hlt
    · rw [hd]
      exact iff_of_false id hle.not_gt

theorem IsRounding.eq_infinite {x : ℚ} {d : Double} (h : IsRounding x d) (hx : limit ≤ |x|) :
    d = .infinite (decide (x < 0)) := by
  cases h with
  | zero hx' negative =>
    rw [hx', abs_zero] at hx
    exact absurd limit_pos hx.not_gt
  | nearest hx' =>
    rcases ofRat_cases hx' with ⟨hlt, -⟩ | ⟨-, hd⟩
    · exact absurd hlt hx.not_gt
    · exact hd

theorem abs_signed (negative : Bool) (x : ℚ) : |signed negative x| = |x| := by
  cases negative <;> simp [signed]

/-- **A finite rounding does not pass a power of two from above**, if it is a double. -/
theorem IsRounding.zpow_le_abs {x : ℚ} {d : Double} (h : IsRounding x d) (hd : d.IsFinite) {k : ℤ} (hk : -1074 ≤ k)
    (hx : 2 ^ k ≤ |x|) : 2 ^ k ≤ |d.toRat| := by
  cases h with
  | zero hx' negative =>
    rw [hx', abs_zero] at hx
    exact absurd hx (not_le.2 (by positivity))
  | nearest hx' =>
    rcases ofRat_cases hx' with ⟨-, m, e, hm, hvalue⟩ | ⟨-, hinfinite⟩
    · rw [hm, toRat, abs_signed, hvalue, abs_of_nonneg (by rw [← hvalue]; positivity)]
      exact zpow_le_rounded hk hx
    · rw [hinfinite] at hd
      exact absurd hd id

theorem IsRounding.finite_or_infinite {x : ℚ} {d : Double} (h : IsRounding x d) :
    (d.IsFinite ∧ |x| < limit) ∨ (d = .infinite (decide (x < 0)) ∧ limit ≤ |x|) := by
  rcases lt_or_ge |x| limit with hx | hx
  · exact .inl ⟨h.isFinite_iff.2 hx, hx⟩
  · exact .inr ⟨h.eq_infinite hx, hx⟩

/-! ### Signs -/

/-- The sign of a double, zero for what is no number. -/
def sgn : Double → SignType
  | .finite negative m _ => if m = 0 then 0 else if negative then -1 else 1
  | .infinite negative => if negative then -1 else 1
  | .notANumber => 0

theorem ite_neg_eq_sign {x : ℚ} (hx : x ≠ 0) : (if decide (x < 0) then -1 else 1) = SignType.sign x := by
  rcases lt_or_gt_of_ne hx with h | h
  · rw [sign_neg h, decide_eq_true h, if_pos rfl]
  · rw [sign_pos h, decide_eq_false h.not_gt]
    rfl

/-- **A rounding keeps the sign**, where the number is no less than the least double. -/
theorem IsRounding.sgn_eq {x : ℚ} {d : Double} (h : IsRounding x d) (hx : x ≠ 0 → 2 ^ (-1074 : ℤ) ≤ |x|) :
    d.sgn = SignType.sign x := by
  cases h with
  | zero hx negative => rw [hx, sign_zero]; rfl
  | nearest hne =>
    rcases ofRat_cases hne with ⟨-, m, e, hd, hm⟩ | ⟨-, hd⟩
    · have hpos : 0 < rounded |x| := lt_of_lt_of_le (by positivity) (zpow_le_rounded le_rfl (hx hne))
      have hm' : m ≠ 0 := by
        rintro rfl
        rw [Nat.cast_zero, zero_mul] at hm
        exact hpos.ne hm
      rw [hd, sgn, if_neg hm', ite_neg_eq_sign hne]
    · rw [hd, sgn, ite_neg_eq_sign hne]

theorem sgn_toRat {d : Double} (h : d.IsFinite) : d.sgn = SignType.sign d.toRat := by
  cases d with
  | finite negative m e =>
    rcases Nat.eq_zero_or_pos m with rfl | hm
    · cases negative <;> simp [sgn, toRat, signed]
    · have hpos := magnitude_pos hm e
      cases negative with
      | false => rw [toRat, signed, if_neg (by decide), sign_pos hpos, sgn, if_neg hm.ne']; rfl
      | true => rw [toRat, signed, if_pos rfl, sign_neg (neg_neg_of_pos hpos), sgn, if_neg hm.ne', if_pos rfl]
  | infinite negative => exact absurd h id
  | notANumber => exact absurd h id

theorem unpack_zero : (0.0 : Float).toModel.unpack = .zero .positive := by rfl

theorem compare_zero (x : Float) : x.toModel.unpack.compare (0.0 : Float).toModel.unpack =
    if ofFloat x = .notANumber then none else
      some (match (ofFloat x).sgn with | .zero => .eq | .neg => .lt | .pos => .gt) := by
  rw [ofFloat_eq, unpack_zero]
  cases x.toModel.unpack with
  | infinity s => cases s <;> rfl
  | notANumber => rfl
  | zero s => cases s <;> rfl
  | finite s m e hm =>
    rw [ofUnpacked_finite, if_neg nofun, sgn, if_neg hm.ne']
    cases s <;> rfl

theorem beq_zero_iff {x : Float} (h : ofFloat x ≠ .notANumber) : (x == 0.0) = true ↔ (ofFloat x).sgn = 0 := by
  change (x.toModel.unpack.compare (0.0 : Float).toModel.unpack == some .eq) = true ↔ _
  rw [compare_zero, if_neg h]
  cases (ofFloat x).sgn <;> decide

theorem lt_zero_iff {x : Float} (h : ofFloat x ≠ .notANumber) : x < 0.0 ↔ (ofFloat x).sgn = -1 := by
  have hlt : x < 0.0 ↔ (x.toModel.unpack.compare (0.0 : Float).toModel.unpack == some .lt) = true :=
    decide_eq_true_iff
  rw [hlt, compare_zero, if_neg h]
  cases (ofFloat x).sgn <;> decide

theorem negative_of_sgn {negative : Bool} {x : ℚ} (h : (infinite negative).sgn = SignType.sign x) :
    negative = decide (x < 0) := by
  cases negative with
  | false => exact (decide_eq_false (sign_eq_one_iff.1 h.symm).not_gt).symm
  | true => exact (decide_eq_true (sign_eq_neg_one_iff.1 h.symm)).symm

/-! ### Spacing -/

theorem exists_multiple {x : Float} (h : x.isFinite = true) : ∃ n e : ℤ, value x = n * 2 ^ e ∧
    |(n : ℚ)| < 2 ^ 53 ∧ -1074 ≤ e ∧ (e = -1074 ∨ 2 ^ 52 ≤ |(n : ℚ)|) := by
  rw [value_eq]
  rcases finite_cases h with ⟨s, hx⟩ | ⟨s, m, e, hm, hx, hc, -⟩ <;> rw [hx]
  · exact ⟨0, -1074, by simp, by simp, le_rfl, .inl rfl⟩
  · have habs : |((s.apply m : ℤ) : ℚ)| = m := by cases s <;> simp [Sign.apply]
    refine ⟨s.apply m, e, toRat_finite s hm, ?_, hc.le, ?_⟩ <;> rw [habs]
    · exact_mod_cast hc.lt
    · exact_mod_cast hc.full

/-- A whole multiple of a power of two is no less than the power, zero aside. -/
theorem zpow_le_abs_mul {n : ℤ} (e : ℤ) (hn : n ≠ 0) : (2 : ℚ) ^ e ≤ |(n : ℚ) * 2 ^ e| := by
  have habs : (1 : ℚ) ≤ |(n : ℚ)| := by exact_mod_cast Int.one_le_abs hn
  rw [abs_mul, abs_of_pos (by positivity : (0 : ℚ) < 2 ^ e)]
  exact le_mul_of_one_le_left (by positivity) habs

/-- **Two doubles differ by half a unit at least.** The power below is half the unit of the second one, or the least
double. -/
theorem spacing {a b : Float} (ha : a.isFinite = true) (hb : b.isFinite = true) (h : value a ≠ value b) :
    ∃ k : ℤ, -1074 ≤ k ∧ 2 ^ k ≤ |value a - value b| ∧ |value b| < 2 ^ (k + 54) := by
  obtain ⟨n, e, hva, hn, he, -⟩ := exists_multiple ha
  obtain ⟨n', e', hvb, hn', he', hfull⟩ := exists_multiple hb
  have hscale {n : ℚ} (e : ℤ) : |n * 2 ^ e| = |n| * 2 ^ e := by
    rw [abs_mul, abs_of_pos (by positivity : (0 : ℚ) < 2 ^ e)]
  obtain ⟨k, hk⟩ : ∃ k, k = max (e' - 1) (-1074) := ⟨_, rfl⟩
  refine ⟨k, by omega, ?_, ?_⟩
  · rcases le_or_gt k e with hke | hke
    · -- both are multiples of the power
      have hmultiple {e : ℤ} (n : ℤ) (he : k ≤ e) : ∃ i : ℤ, (n : ℚ) * 2 ^ e = i * 2 ^ k := by
        refine ⟨n * 2 ^ (e - k).toNat, ?_⟩
        push_cast
        rw [mul_assoc, ← zpow_natCast, ← zpow_add₀ two_ne_zero, Int.toNat_of_nonneg (by omega), sub_add_cancel]
      obtain ⟨i, hi⟩ := hmultiple n hke
      obtain ⟨j, hj⟩ := hmultiple (e := e') n' (by omega)
      rw [hva, hvb, hi, hj] at h ⊢
      rw [← sub_mul, ← Int.cast_sub]
      exact zpow_le_abs_mul k fun hij => h (by rw [sub_eq_zero.1 hij])
    · -- the first one is less than half of the second one
      have hsmall : |value a| < 2 ^ (e' + 51) := by
        rw [hva, hscale]
        calc |(n : ℚ)| * 2 ^ e < 2 ^ 53 * 2 ^ e := by gcongr
          _ = 2 ^ (e + 53) := by rw [add_comm, zpow_add₀ two_ne_zero]; rfl
          _ ≤ 2 ^ (e' + 51) := zpow_le_zpow_right₀ one_le_two (by omega)
      have hlarge : 2 ^ (e' + 52) ≤ |value b| := by
        rw [hvb, hscale]
        calc (2 : ℚ) ^ (e' + 52) = 2 ^ 52 * 2 ^ e' := by rw [add_comm, zpow_add₀ two_ne_zero]; rfl
          _ ≤ |(n' : ℚ)| * 2 ^ e' := by gcongr; exact hfull.resolve_left (by omega)
      have htwice : (2 : ℚ) ^ (e' + 52) = 2 ^ (e' + 51) + 2 ^ (e' + 51) := by
        rw [show e' + 52 = e' + 51 + 1 by ring, zpow_add_one₀ two_ne_zero, mul_two]
      calc (2 : ℚ) ^ k ≤ 2 ^ (e' + 51) := zpow_le_zpow_right₀ one_le_two (by omega)
        _ ≤ |value b| - |value a| := by linarith
        _ ≤ |value b - value a| := abs_sub_abs_le_abs_sub _ _
        _ = |value a - value b| := abs_sub_comm _ _
  · rw [hvb, hscale]
    calc |(n' : ℚ)| * 2 ^ e' < 2 ^ 53 * 2 ^ e' := by gcongr
      _ = 2 ^ (e' + 53) := by rw [add_comm, zpow_add₀ two_ne_zero]; rfl
      _ ≤ 2 ^ (k + 54) := zpow_le_zpow_right₀ one_le_two (by omega)

/-! ### Relative changes -/

theorem sgn_infinite (negative : Bool) {x : ℚ} (hx : x ≠ 0) :
    (infinite (negative != decide (x < 0))).sgn = (infinite negative).sgn * SignType.sign x := by
  rw [← ite_neg_eq_sign hx]
  cases negative <;> cases decide (x < 0) <;> rfl

theorem sign_div (x y : ℚ) : SignType.sign (x / y) = SignType.sign x * SignType.sign y := by
  rw [div_eq_mul_inv, sign_mul]
  congr 1
  rcases lt_trichotomy y 0 with h | rfl | h
  · rw [sign_neg h, sign_neg (inv_lt_zero.2 h)]
  · rw [inv_zero]
  · rw [sign_pos h, sign_pos (inv_pos.2 h)]

/-- **The relative change of two doubles has the sign of the exact one**, whatever overflows on the way. A difference
that is no zero is never so small beside the base that the quotient vanishes. -/
theorem sgn_change {old new : Float} (hold : old.isFinite = true) (hnew : new.isFinite = true) (h : value old ≠ 0) :
    (ofFloat ((new - old) / old)).sgn = SignType.sign (value new - value old) * SignType.sign (value old) := by
  have hsub := isRounding_sub hnew hold
  by_cases heq : value new = value old
  · have hzero : value new - value old = 0 := sub_eq_zero.2 heq
    have hfinite : (new - old).isFinite = true := by
      rw [isFinite_iff, hsub.isFinite_iff, hzero, abs_zero]
      exact limit_pos
    have hvalue : value (new - old) = 0 := hsub.toRat_eq_zero hzero
    have hdiv := isRounding_div hfinite hold h
    rw [hvalue, zero_div] at hdiv
    rw [hdiv.sgn_eq (absurd rfl), hzero, sign_zero, zero_mul]
  obtain ⟨k, hk, hle, hlt⟩ := spacing hnew hold heq
  have hsgn : (ofFloat (new - old)).sgn = SignType.sign (value new - value old) :=
    hsub.sgn_eq fun _ => (zpow_le_zpow_right₀ one_le_two hk).trans hle
  by_cases hfinite : (new - old).isFinite = true
  · -- the difference is half a unit of the base at least, and the base less than `2 ^ 54` of these
    have hvalue : 2 ^ k ≤ |value (new - old)| := hsub.zpow_le_abs (isFinite_iff.1 hfinite) hk hle
    have hquotient : 2 ^ (-1074 : ℤ) ≤ |value (new - old) / value old| := by
      rw [abs_div, le_div_iff₀ (abs_pos.2 h)]
      calc (2 : ℚ) ^ (-1074 : ℤ) * |value old| ≤ 2 ^ (-54 : ℤ) * 2 ^ (k + 54) := by gcongr <;> norm_num
        _ = 2 ^ k := by rw [← zpow_add₀ two_ne_zero]; congr 1; ring
        _ ≤ |value (new - old)| := hvalue
    rw [(isRounding_div hfinite hold h).sgn_eq fun _ => hquotient, sign_div, ← hsgn,
      sgn_toRat (isFinite_iff.1 hfinite)]
    rfl
  · have hover : limit ≤ |value new - value old| := by
      rwa [isFinite_iff, hsub.isFinite_iff, not_lt] at hfinite
    rw [ofFloat_div_infinite (hsub.eq_infinite hover) hold h, sgn_infinite _ h, ← hsgn, hsub.eq_infinite hover]

end BenchCompare.Double
