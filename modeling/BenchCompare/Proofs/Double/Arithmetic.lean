import BenchCompare.Proofs.Double.Rounding

/-!
# Arithmetic of doubles

* `ofRat x`: the double nearest to `x`, where `x` is no zero.
* `IsRounding x d`: an operation with the exact result `x` may give `d`.
* `isRounding_normalize`, `divCore_spec`: the integers behind a difference and behind a quotient.
* `ofFloat_div_infinite`, `ofFloat_mul_infinite`: what becomes of an infinite operand.

Main statements: `isRounding_sub`, `isRounding_mul`, `isRounding_div`.
-/

namespace BenchCompare.Double

open Float.Model (UnpackedFloat Format totalExponent)
open Float.Model.UnpackedFloat

/-- The double nearest to a number other than zero. -/
def ofRat (x : ℚ) : Double := nearest (decide (x < 0)) |x|

/-- The double is what an operation with this exact result gives: a zero of either sign or the nearest double. -/
inductive IsRounding (x : ℚ) : Double → Prop where
  | zero (h : x = 0) (negative : Bool) : IsRounding x (.finite negative 0 (-1074))
  | nearest (h : x ≠ 0) : IsRounding x (ofRat x)

theorem ofRat_signed (negative : Bool) {x : ℚ} (hx : 0 < x) : ofRat (signed negative x) = nearest negative x := by
  cases negative
  · rw [ofRat, signed, if_neg (by decide), decide_eq_false hx.not_gt, abs_of_pos hx]
  · rw [ofRat, signed, if_pos rfl, decide_eq_true (by linarith), abs_neg, abs_of_pos hx]

/-! ### Rounding of exact mantissas -/

theorem holds_exact (m : ℕ) : Holds (.ofMantissaAndAccuracy m .exact) m :=
  ⟨0, le_rfl, by norm_num, iff_of_true rfl rfl, by simp [ExtendedMantissa.ofMantissaAndAccuracy]⟩

theorem targetExponent_exact {m : ℕ} (hm : 0 < m) (e : ℤ) :
    Format.binary64.targetExponent (totalExponent m e) = exponentOf (m * 2 ^ e) := by
  have hdiv : (m * 2 ^ e : ℚ) / 2 ^ e = m := mul_div_cancel_right₀ _ (by positivity)
  exact targetExponent_eq_exponentOf hm (by rw [hdiv]) (by rw [hdiv]; linarith)

theorem ofFloat_pack_exact (s : Sign) {m : ℕ} {e : ℤ} (hm : 0 < m)
    (he : e ≤ Format.binary64.targetExponent (totalExponent m e)) :
    ofFloat (.ofModel (.pack (roundWithAccuracy Format.binary64 s m e .exact))) =
      nearest (isNegative s) (m * 2 ^ e) := by
  refine ofFloat_pack_roundWithAccuracy s (by positivity) ?_ he
  rw [mul_div_cancel_right₀ _ (by positivity)]
  exact holds_exact m

theorem le_targetExponent {m : ℕ} {e : ℤ} (h : e ≤ -1074 ∨ 2 ^ 52 ≤ m) :
    e ≤ Format.binary64.targetExponent (totalExponent m e) := by
  rw [targetExponent_eq]
  rcases h with h | h
  · exact h.trans (le_max_right _ _)
  · have := (Nat.le_log2 (by omega)).2 h
    omega

theorem decreaseExponent_value (m : ℕ) (e t : ℤ) :
    ((decreaseExponent m e t).1 : ℚ) * 2 ^ (decreaseExponent m e t).2 = m * 2 ^ e := by
  rw [decreaseExponent, Nat.shiftLeft_eq]
  push_cast
  rw [← zpow_natCast, mul_assoc, ← zpow_add₀ two_ne_zero, add_sub_cancel]

/-- Rounding first makes room for all digits. -/
theorem ofFloat_pack_round (s : Sign) {m : ℕ} (hm : 0 < m) (e : ℤ) :
    ofFloat (.ofModel (.pack (UnpackedFloat.round Format.binary64 s m e))) = nearest (isNegative s) (m * 2 ^ e) := by
  have hvalue := decreaseExponent_value m e (exponentOf (m * 2 ^ e))
  have hexponent : (decreaseExponent m e (exponentOf (m * 2 ^ e))).2 ≤ exponentOf (m * 2 ^ e) := by
    rw [decreaseExponent]
    dsimp only
    omega
  have hpos : 0 < (decreaseExponent m e (exponentOf (m * 2 ^ e))).1 := by
    rw [decreaseExponent, Nat.shiftLeft_eq]
    positivity
  rw [UnpackedFloat.round, targetExponent_exact hm]
  dsimp only
  rw [ofFloat_pack_exact s hpos (by rw [targetExponent_exact hpos, hvalue]; exact hexponent), hvalue]

/-! ### Canonical numbers are nearest to themselves -/

theorem nearest_canonical (negative : Bool) {m : ℕ} {e : ℤ} (hm : 0 < m) (h : IsCanonical m e) (he : e ≤ 971) :
    nearest negative (m * 2 ^ e) = .finite negative m e := by
  have hdiv : (m * 2 ^ e : ℚ) / 2 ^ e = m := mul_div_cancel_right₀ _ (by positivity)
  have hexponent : exponentOf (m * 2 ^ e) = e := by
    rw [← targetExponent_exact hm, targetExponent_eq]
    have hle := h.le
    have hlog : m.log2 < 53 := (Nat.log2_lt hm.ne').2 h.lt
    rcases h.full with rfl | hfull
    · omega
    · have := log2_of_canonical h.lt hfull
      omega
  have hne : m ≠ 2 ^ 53 := h.lt.ne
  rw [Double.nearest, significand, hexponent, hdiv, roundEven_natCast, carry, if_neg hne]
  exact if_pos he

/-! ### Differences -/

theorem toRat_finite (s : Sign) {m : ℕ} {e : ℤ} (hm : 0 < m) :
    (ofUnpacked (.finite s m e hm)).toRat = (s.apply m : ℤ) * 2 ^ e := by
  cases s with
  | negative => rw [toRat_negative, Sign.apply, Int.cast_neg, Int.cast_natCast, neg_mul]
  | positive => rw [toRat_positive, Sign.apply, Int.cast_natCast]

theorem isRounding_zero {x : ℚ} (hx : x = 0) (s : Sign) : IsRounding x (ofFloat (.ofModel (.pack (.zero s)))) :=
  ofFloat_pack_zero s ▸ .zero hx _

theorem toRat_finite_ne_zero (s : Sign) {m : ℕ} {e : ℤ} (hm : 0 < m) :
    (ofUnpacked (.finite s m e hm)).toRat ≠ 0 := by
  cases s with
  | negative => exact neg_ne_zero.2 (magnitude_pos hm e).ne'
  | positive => exact (magnitude_pos hm e).ne'

theorem isNegative_neg (s : Sign) : isNegative (-s) = !isNegative s := by cases s <;> rfl

theorem signed_not (negative : Bool) (x : ℚ) : signed (!negative) x = -signed negative x := by
  cases negative <;> simp [signed]

theorem isRounding_normalize (m : ℤ) (e : ℤ) :
    IsRounding (m * 2 ^ e) (ofFloat (.ofModel (.pack (UnpackedFloat.normalize Format.binary64 m e .positive)))) := by
  have hround (s : Sign) {n : ℕ} (hn : 0 < n) (h : m = s.apply n) :
      IsRounding (m * 2 ^ e) (ofFloat (.ofModel (.pack (UnpackedFloat.round Format.binary64 s n e)))) := by
    rw [ofFloat_pack_round s hn, ← ofRat_signed _ (magnitude_pos hn e), h, ← toRat_finite s hn]
    exact .nearest (toRat_finite_ne_zero s hn)
  rw [UnpackedFloat.normalize]
  rcases lt_trichotomy m 0 with hm | rfl | hm
  · rw [compare_lt_iff_lt.2 hm]
    exact hround .negative (by omega) (by rw [Sign.apply]; omega)
  · rw [compare_eq_iff_eq.2 rfl]
    exact isRounding_zero (by simp) _
  · rw [compare_gt_iff_gt.2 hm]
    exact hround .positive (by omega) (by rw [Sign.apply]; omega)

theorem ofFloat_pack_canonical (s : Sign) {m : ℕ} {e : ℤ} (hm : 0 < m) (h : IsCanonical m e) (he : e ≤ 971) :
    ofFloat (.ofModel (.pack (.finite s m e hm))) = ofRat (signed (isNegative s) (m * 2 ^ e)) := by
  rw [ofFloat_pack_finite s hm h, if_pos he, ofRat_signed _ (magnitude_pos hm e), nearest_canonical _ hm h he]

theorem decreaseExponent_apply (s : Sign) (m : ℕ) {e t : ℤ} (h : t ≤ e) :
    ((s.apply (decreaseExponent m e t).1 : ℤ) : ℚ) * 2 ^ t = (s.apply m : ℤ) * 2 ^ e := by
  have hexponent : (decreaseExponent m e t).2 = t := by
    rw [decreaseExponent]
    dsimp only
    omega
  have hvalue := decreaseExponent_value m e t
  rw [hexponent] at hvalue
  cases s with
  | negative => simp only [Sign.apply, Int.cast_neg, Int.cast_natCast, neg_mul, hvalue]
  | positive => simp only [Sign.apply, Int.cast_natCast, hvalue]

/-- **The difference of two finite doubles is their exact difference, rounded.** -/
theorem isRounding_sub {a b : Float} (ha : a.isFinite = true) (hb : b.isFinite = true) :
    IsRounding (value a - value b) (ofFloat (a - b)) := by
  change IsRounding _ (ofFloat (.ofModel (.pack (sub Format.binary64 a.toModel.unpack b.toModel.unpack))))
  rw [value_eq, value_eq]
  rcases finite_cases ha with ⟨s, ha⟩ | ⟨s, m, e, hm, ha, hca, hea⟩ <;>
    rcases finite_cases hb with ⟨s', hb⟩ | ⟨s', m', e', hm', hb, hcb, heb⟩ <;> rw [ha, hb]
  · rw [toRat_zero, toRat_zero]
    cases s <;> cases s' <;> exact isRounding_zero (sub_zero 0) _
  · have hne := toRat_finite_ne_zero s' (e := e') hm'
    change IsRounding _ (ofFloat (.ofModel (.pack (.finite (-s') m' e' hm'))))
    rw [toRat_zero, zero_sub, ofFloat_pack_canonical _ hm' hcb heb, isNegative_neg, signed_not]
    exact .nearest (neg_ne_zero.2 hne)
  · have hne := toRat_finite_ne_zero s (e := e) hm
    rw [toRat_zero, sub_zero]
    exact ofFloat_pack_canonical s hm hca hea ▸ .nearest hne
  · have hvalue : ((s.apply (decreaseExponent m e (min e e')).1 -
        s'.apply (decreaseExponent m' e' (min e e')).1 : ℤ) : ℚ) * 2 ^ min e e' =
        (s.apply m : ℤ) * 2 ^ e - (s'.apply m' : ℤ) * 2 ^ e' := by
      rw [Int.cast_sub, sub_mul, decreaseExponent_apply s m (min_le_left e e'),
        decreaseExponent_apply s' m' (min_le_right e e')]
    rw [toRat_finite, toRat_finite, ← hvalue]
    exact isRounding_normalize _ _

/-! ### Products and quotients -/

theorem isNegative_mul (s s' : Sign) : isNegative (s * s') = (isNegative s != isNegative s') := by
  cases s <;> cases s' <;> rfl

theorem isNegative_div (s s' : Sign) : isNegative (s / s') = (isNegative s != isNegative s') := by
  cases s <;> cases s' <;> rfl

theorem signed_mul (n n' : Bool) (x y : ℚ) : signed n x * signed n' y = signed (n != n') (x * y) := by
  cases n <;> cases n' <;> simp [signed]

theorem signed_div (n n' : Bool) (x y : ℚ) : signed n x / signed n' y = signed (n != n') (x / y) := by
  cases n <;> cases n' <;> simp [signed, neg_div, div_neg]

/-- **The product of two finite doubles is their exact product, rounded.** -/
theorem isRounding_mul {a b : Float} (ha : a.isFinite = true) (hb : b.isFinite = true) :
    IsRounding (value a * value b) (ofFloat (a * b)) := by
  change IsRounding _ (ofFloat (.ofModel (.pack (mul Format.binary64 a.toModel.unpack b.toModel.unpack))))
  rw [value_eq, value_eq]
  rcases finite_cases ha with ⟨s, ha⟩ | ⟨s, m, e, hm, ha, hca, -⟩ <;>
    rcases finite_cases hb with ⟨s', hb⟩ | ⟨s', m', e', hm', hb, hcb, -⟩ <;> rw [ha, hb]
  · exact isRounding_zero (by rw [toRat_zero, zero_mul]) _
  · exact isRounding_zero (by rw [toRat_zero, zero_mul]) _
  · exact isRounding_zero (by rw [toRat_zero, mul_zero]) _
  · have hpos : 0 < m * m' := Nat.mul_pos hm hm'
    have hexact : ((m * m' : ℕ) : ℚ) * 2 ^ (e + e') = m * 2 ^ e * (m' * 2 ^ e') := by
      rw [zpow_add₀ two_ne_zero]
      push_cast
      ring
    have he : e + e' ≤ -1074 ∨ 2 ^ 52 ≤ m * m' := by
      rcases hca.full with he | hm52
      · rcases hcb.full with he' | hm52
        · exact .inl (by omega)
        · exact .inr (hm52.trans (Nat.le_mul_of_pos_left _ hm))
      · exact .inr (hm52.trans (Nat.le_mul_of_pos_right _ hm'))
    have hround : ofFloat (.ofModel (.pack (roundWithAccuracy Format.binary64 (s * s') (m * m') (e + e') .exact))) =
        ofRat (signed (isNegative s) (m * 2 ^ e) * signed (isNegative s') (m' * 2 ^ e')) := by
      rw [ofFloat_pack_exact _ hpos (le_targetExponent he), hexact, isNegative_mul, signed_mul,
        ofRat_signed _ (mul_pos (magnitude_pos hm e) (magnitude_pos hm' e'))]
    exact hround ▸ .nearest (mul_ne_zero (toRat_finite_ne_zero s hm) (toRat_finite_ne_zero s' hm'))

/-- The quotient of two mantissas and what is cut off. -/
theorem holds_accuracyOfFraction (n : ℕ) {d : ℕ} (hd : 0 < d) :
    Holds (.ofMantissaAndAccuracy (n / d) (accuracyOfFraction (n % d) d)) (n / d) := by
  have hd' : (0 : ℚ) < d := by exact_mod_cast hd
  have hquotient : (n : ℚ) / d = (n / d : ℕ) + (n % d : ℕ) / d := by
    rw [div_eq_iff hd'.ne', add_mul, div_mul_cancel₀ _ hd'.ne']
    exact_mod_cast (Nat.div_add_mod' n d).symm
  have hmod : ((n % d : ℕ) : ℚ) < d := by exact_mod_cast Nat.mod_lt n hd
  rw [hquotient, accuracyOfFraction]
  generalize n % d = k at *
  split_ifs with hk
  · exact ⟨0, le_rfl, by norm_num, iff_of_true rfl rfl, by simp [hk, ExtendedMantissa.ofMantissaAndAccuracy]⟩
  have hpos : (0 : ℚ) < k := by exact_mod_cast Nat.pos_of_ne_zero hk
  rcases lt_trichotomy (2 * k) d with h | h | h
  · have hlt : (2 : ℚ) * k < d := by exact_mod_cast h
    rw [compare_lt_iff_lt.2 h]
    refine ⟨k / d, by positivity, ?_, iff_of_false Bool.noConfusion (by positivity), ?_⟩
    · rw [div_lt_iff₀ hd']
      linarith
    · simp [ExtendedMantissa.ofMantissaAndAccuracy]
  · have heq : (2 : ℚ) * k = d := by exact_mod_cast h
    rw [compare_eq_iff_eq.2 h]
    refine ⟨0, le_rfl, by norm_num, iff_of_true rfl rfl, ?_⟩
    have hhalf : (k : ℚ) / d = 1 / 2 := by
      rw [div_eq_iff hd'.ne']
      linarith
    simp [ExtendedMantissa.ofMantissaAndAccuracy, hhalf]
  · have hgt : (d : ℚ) < 2 * k := by exact_mod_cast h
    have hhalf : 1 / 2 < (k : ℚ) / d := by
      rw [lt_div_iff₀ hd']
      linarith
    have hone : (k : ℚ) / d < 1 := (div_lt_one hd').2 hmod
    rw [compare_gt_iff_gt.2 h]
    refine ⟨k / d - 1 / 2, by linarith, by linarith, iff_of_false Bool.noConfusion (by linarith), ?_⟩
    simp only [ExtendedMantissa.ofMantissaAndAccuracy, if_true]
    ring

/-- The quotient of two mantissas has enough digits for rounding. -/
theorem divCore_spec {m m' : ℕ} (hm : 0 < m) (hm' : 0 < m') (e e' : ℤ) :
    let (q, t, acc) := divCore Format.binary64 m e m' e'
    Holds (.ofMantissaAndAccuracy q acc) ((m * 2 ^ e / (m' * 2 ^ e') : ℚ) / 2 ^ t) ∧
      (t ≤ -1074 ∨ 2 ^ 52 ≤ q) := by
  have htarget : Format.binary64.targetExponent (totalExponent m e - totalExponent m' e') =
      max (m.log2 + e - (m'.log2 + e') - 53) (-1074) := by
    rw [totalExponent, totalExponent]
    change max (_ - 53) _ = _
    congr 1
    ring
  dsimp only [divCore]
  rw [htarget, Nat.shiftLeft_eq]
  -- the quotient is taken at the exponent `t`, for which the first mantissa is shifted by `k`
  obtain ⟨t, ht⟩ : ∃ t, t = min (e - e') (max (m.log2 + e - (m'.log2 + e') - 53) (-1074)) := ⟨_, rfl⟩
  rw [← ht]
  obtain ⟨k, hk⟩ : ∃ k : ℕ, e - e' - t = k := ⟨(e - e' - t).toNat, by omega⟩
  rw [hk, Int.toNat_natCast]
  constructor
  · have hx : (m * 2 ^ e / (m' * 2 ^ e') : ℚ) / 2 ^ t = (m * 2 ^ k : ℕ) / m' := by
      have he : e = k + e' + t := by omega
      rw [he, zpow_add₀ two_ne_zero, zpow_add₀ two_ne_zero, zpow_natCast]
      push_cast
      field_simp
    rw [hx]
    exact holds_accuracyOfFraction _ hm'
  · rw [or_iff_not_imp_left, not_le]
    intro hmin
    have hdigits : 53 + m'.log2 ≤ m.log2 + k := by omega
    rw [Nat.le_div_iff_mul_le hm']
    calc 2 ^ 52 * m' ≤ 2 ^ 52 * 2 ^ (m'.log2 + 1) := by gcongr; exact Nat.lt_log2_self.le
      _ = 2 ^ (53 + m'.log2) := by rw [← pow_add]; congr 1; omega
      _ ≤ 2 ^ (m.log2 + k) := Nat.pow_le_pow_right two_pos hdigits
      _ = 2 ^ m.log2 * 2 ^ k := pow_add _ _ _
      _ ≤ m * 2 ^ k := by gcongr; exact Nat.log2_self_le hm.ne'

/-- **The quotient of two finite doubles is their exact quotient, rounded.** -/
theorem isRounding_div {a b : Float} (ha : a.isFinite = true) (hb : b.isFinite = true) (h : value b ≠ 0) :
    IsRounding (value a / value b) (ofFloat (a / b)) := by
  change IsRounding _ (ofFloat (.ofModel (.pack (div Format.binary64 a.toModel.unpack b.toModel.unpack))))
  rw [value_eq] at h
  rw [value_eq, value_eq]
  rcases finite_cases hb with ⟨s', hb⟩ | ⟨s', m', e', hm', hb, hcb, -⟩
  · rw [hb, toRat_zero] at h
    exact absurd rfl h
  rcases finite_cases ha with ⟨s, ha⟩ | ⟨s, m, e, hm, ha, hca, -⟩ <;> rw [ha, hb]
  · exact isRounding_zero (by rw [toRat_zero, zero_div]) _
  · have hx : 0 < (m : ℚ) * 2 ^ e / (m' * 2 ^ e') := div_pos (magnitude_pos hm e) (magnitude_pos hm' e')
    have hcore := divCore_spec hm hm' e e'
    have hround : ofFloat (.ofModel (.pack (div Format.binary64 (.finite s m e hm) (.finite s' m' e' hm')))) =
        ofRat (signed (isNegative s) (m * 2 ^ e) / signed (isNegative s') (m' * 2 ^ e')) := by
      rw [signed_div, ofRat_signed _ hx, ← isNegative_div]
      exact ofFloat_pack_roundWithAccuracy _ hx hcore.1 (le_targetExponent hcore.2)
    exact hround ▸ .nearest (div_ne_zero (toRat_finite_ne_zero s hm) (toRat_finite_ne_zero s' hm'))

/-! ### Infinite operands -/

theorem unpack_infinite {x : Float} {negative : Bool} (h : ofFloat x = .infinite negative) :
    ∃ s, x.toModel.unpack = .infinity s ∧ isNegative s = negative := by
  rw [ofFloat_eq] at h
  cases hx : x.toModel.unpack with
  | infinity s => rw [hx] at h; exact ⟨s, rfl, Double.infinite.inj h⟩
  | notANumber => rw [hx] at h; cases h
  | zero s => rw [hx] at h; cases h
  | finite s m e hm => rw [hx] at h; cases h

theorem ofFloat_pack_infinity (s : Sign) : ofFloat (.ofModel (.pack (.infinity s))) = .infinite (isNegative s) := by
  change ofBits (packComponents Format.binary64 s (-1#_) 0).toNat = _
  rw [ofBits_packComponents]
  rfl

theorem decide_toRat_neg (s : Sign) {m : ℕ} {e : ℤ} (hm : 0 < m) :
    decide ((ofUnpacked (.finite s m e hm)).toRat < 0) = isNegative s := by
  have := magnitude_pos hm e
  cases s with
  | negative => exact decide_eq_true (neg_neg_of_pos this)
  | positive => exact decide_eq_false this.not_gt

theorem ofFloat_div_infinite {a b : Float} {negative : Bool} (ha : ofFloat a = .infinite negative)
    (hb : b.isFinite = true) (h : value b ≠ 0) : ofFloat (a / b) = .infinite (negative != decide (value b < 0)) := by
  change ofFloat (.ofModel (.pack (div Format.binary64 a.toModel.unpack b.toModel.unpack))) = _
  rw [value_eq] at h ⊢
  obtain ⟨s, hs, rfl⟩ := unpack_infinite ha
  rcases finite_cases hb with ⟨s', hb⟩ | ⟨s', m, e, hm, hb, -⟩ <;> rw [hb] at h ⊢
  · exact absurd (toRat_zero s') h
  · rw [hs, decide_toRat_neg, ← isNegative_div]
    exact ofFloat_pack_infinity _

theorem ofFloat_mul_infinite {a b : Float} {negative : Bool} (ha : ofFloat a = .infinite negative)
    (hb : b.isFinite = true) (h : value b ≠ 0) : ofFloat (a * b) = .infinite (negative != decide (value b < 0)) := by
  change ofFloat (.ofModel (.pack (mul Format.binary64 a.toModel.unpack b.toModel.unpack))) = _
  rw [value_eq] at h ⊢
  obtain ⟨s, hs, rfl⟩ := unpack_infinite ha
  rcases finite_cases hb with ⟨s', hb⟩ | ⟨s', m, e, hm, hb, -⟩ <;> rw [hb] at h ⊢
  · exact absurd (toRat_zero s') h
  · rw [hs, decide_toRat_neg, ← isNegative_mul]
    exact ofFloat_pack_infinity _

end BenchCompare.Double
