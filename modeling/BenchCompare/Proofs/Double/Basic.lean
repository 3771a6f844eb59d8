import BenchCompare.Decimal.Double
import Mathlib.Algebra.Order.Field.Power
import Mathlib.Algebra.Order.Ring.Rat
import Mathlib.Tactic.GCongr
import Mathlib.Tactic.Linarith
import Mathlib.Tactic.NormNum
import Mathlib.Tactic.Positivity
import Mathlib.Tactic.Ring

/-!
# Doubles as numbers

The operations of doubles are defined on unpacked floats, which are packed into bits again. Here both forms are read as
a `Double`, that is as a sign, a mantissa and an exponent.

* `ofUnpacked`: the double of an unpacked float. `ofFloat_eq`: it is what the bits say.
* `IsCanonical m e`: the mantissa has as many digits as a double has room for. `finite_cases`: all finite doubles have
  one.
* `value x`: the number that a double stands for. `lt_iff`, `beq_iff`: comparing doubles is comparing these.

Main statements: `ofFloat_pack_finite`, `compare_unpack`.
-/

namespace BenchCompare.Double

open Float.Model (UnpackedFloat Format)
open Float.Model.UnpackedFloat

/-! ### Bits and unpacked floats -/

def isNegative : Sign → Bool
  | .negative => true
  | .positive => false

def ofUnpacked : UnpackedFloat → Double
  | .infinity s => .infinite (isNegative s)
  | .notANumber => .notANumber
  | .zero s => .finite (isNegative s) 0 (-1074)
  | .finite s m e _ => .finite (isNegative s) m e

theorem ofUnpacked_finite (s : Sign) {m : ℕ} {e : ℤ} (hm : 0 < m) :
    ofUnpacked (.finite s m e hm) = .finite (isNegative s) m e := rfl

theorem toNat_unpackMantissa (b : BitVec Format.binary64.numBits) :
    (unpackMantissa b).toNat = b.toNat % 2 ^ 52 := by
  simp [unpackMantissa, BitVec.extractLsb_toNat]

theorem toNat_unpackExponent (b : BitVec Format.binary64.numBits) :
    (unpackExponent b).toNat = b.toNat / 2 ^ 52 % 2 ^ 11 := by
  simp [unpackExponent, BitVec.extractLsb_toNat, Nat.shiftRight_eq_div_pow]

theorem toNat_unpackSign (b : BitVec Format.binary64.numBits) :
    (unpackSign b).toNat = b.toNat / 2 ^ 63 % 2 := by
  change ((b.extractLsb 63 63).cast _).toNat = _
  simp [BitVec.extractLsb_toNat, Nat.shiftRight_eq_div_pow]

theorem isNegative_ofBitVec (b : BitVec 1) : isNegative (Sign.ofBitVec b) = (b.toNat == 1) := by
  decide +revert

theorem isNegative_eq (s : Sign) : isNegative s = (s.toBitVec.toNat == 1) := by cases s <;> rfl

theorem ofBits_eq (n : Nat) : ofBits n =
    if n / 2 ^ 52 % 2 ^ 11 = 2047 then
      if n % 2 ^ 52 = 0 then .infinite (n / 2 ^ 63 % 2 == 1) else .notANumber
    else if n / 2 ^ 52 % 2 ^ 11 = 0 then .finite (n / 2 ^ 63 % 2 == 1) (n % 2 ^ 52) (-1074)
    else .finite (n / 2 ^ 63 % 2 == 1) (2 ^ 52 + n % 2 ^ 52) ((n / 2 ^ 52 % 2 ^ 11 : Nat) - 1075) := by
  simp only [ofBits, Nat.pow_eq, beq_iff_eq]

theorem ofBits_toNat (b : BitVec Format.binary64.numBits) :
    ofBits b.toNat = ofUnpacked (unpack Format.binary64 b) := by
  have hall : unpackExponent b = -1#_ ↔ (unpackExponent b).toNat = 2047 := BitVec.toNat_inj.symm
  have hzero : unpackExponent b = 0#_ ↔ (unpackExponent b).toNat = 0 := BitVec.toNat_inj.symm
  have hmantissa : unpackMantissa b = 0#_ ↔ (unpackMantissa b).toNat = 0 := BitVec.toNat_inj.symm
  have happend : (1#1 ++ unpackMantissa b).toNat = 2 ^ 52 + (unpackMantissa b).toNat := by
    rw [BitVec.toNat_append, ← Nat.shiftLeft_add_eq_or_of_lt (unpackMantissa b).isLt]
    rfl
  have hbias : (Format.binary64.exponentBias : ℤ) + (Format.binary64.mantissaBitsWithoutImplicit : ℤ) = 1075 := rfl
  rw [ofBits_eq, ← toNat_unpackExponent, ← toNat_unpackMantissa, ← toNat_unpackSign, ← isNegative_ofBitVec]
  delta unpack
  dsimp only
  by_cases h1 : (unpackExponent b).toNat = 2047
  · rw [if_pos h1, if_pos (hall.2 h1)]
    by_cases h2 : (unpackMantissa b).toNat = 0
    · rw [if_pos h2, if_pos (hmantissa.2 h2)]
      rfl
    · rw [if_neg h2, if_neg (mt hmantissa.1 h2)]
      rfl
  · rw [if_neg h1, if_neg (mt hall.1 h1)]
    by_cases h2 : (unpackExponent b).toNat = 0
    · rw [if_pos h2, if_pos (hzero.2 h2)]
      by_cases h3 : (unpackMantissa b).toNat = 0
      · rw [dif_pos (hmantissa.2 h3), h3]
        rfl
      · rw [dif_neg (mt hmantissa.1 h3), ofUnpacked_finite, h2, hbias]
        rfl
    · rw [if_neg h2, if_neg (mt hzero.1 h2), ofUnpacked_finite, happend, hbias]

/-- The bits of a double say what unpacking makes of it. -/
theorem ofFloat_eq (x : Float) : ofFloat x = ofUnpacked x.toModel.unpack := ofBits_toNat x.toModel.toBits.toBitVec

/-! ### Packing -/

theorem toNat_packComponents (s : Sign) (e : BitVec 11) (m : BitVec 52) :
    (packComponents Format.binary64 s e m).toNat = (s.toBitVec.toNat * 2 ^ 11 + e.toNat) * 2 ^ 52 + m.toNat := by
  simp only [packComponents, BitVec.toNat_append]
  rw [← Nat.shiftLeft_add_eq_or_of_lt e.isLt, ← Nat.shiftLeft_add_eq_or_of_lt m.isLt]
  simp [Nat.shiftLeft_eq]

theorem ofBits_packComponents (s : Sign) (e : BitVec 11) (m : BitVec 52) :
    ofBits (packComponents Format.binary64 s e m).toNat =
    if e.toNat = 2047 then if m.toNat = 0 then .infinite (isNegative s) else .notANumber
    else if e.toNat = 0 then .finite (isNegative s) m.toNat (-1074)
    else .finite (isNegative s) (2 ^ 52 + m.toNat) (e.toNat - 1075) := by
  have hs : s.toBitVec.toNat < 2 := s.toBitVec.isLt
  have he : e.toNat < 2 ^ 11 := e.isLt
  have hm : m.toNat < 2 ^ 52 := m.isLt
  rw [ofBits_eq, toNat_packComponents, isNegative_eq]
  generalize s.toBitVec.toNat = s at *
  generalize e.toNat = e at *
  generalize m.toNat = m at *
  have h1 : ((s * 2 ^ 11 + e) * 2 ^ 52 + m) / 2 ^ 52 % 2 ^ 11 = e := by omega
  have h2 : ((s * 2 ^ 11 + e) * 2 ^ 52 + m) % 2 ^ 52 = m := by omega
  have h3 : ((s * 2 ^ 11 + e) * 2 ^ 52 + m) / 2 ^ 63 % 2 = s := by omega
  rw [h1, h2, h3]

/-- A mantissa of 53 bits with as many of them in use as the least exponent allows. -/
structure IsCanonical (m : ℕ) (e : ℤ) : Prop where
  lt : m < 2 ^ 53
  le : -1074 ≤ e
  full : e = -1074 ∨ 2 ^ 52 ≤ m

/-- A bit pattern that stands for a finite number does so with a canonical mantissa. -/
theorem canonical_of_ofBits {n : ℕ} {negative : Bool} {m : ℕ} {e : ℤ} (h : ofBits n = .finite negative m e) :
    IsCanonical m e ∧ e ≤ 971 := by
  rw [ofBits_eq] at h
  split_ifs at h with h1 h2 h3
  · obtain ⟨-, rfl, rfl⟩ := Double.finite.inj h
    exact ⟨⟨by omega, le_rfl, .inl rfl⟩, by norm_num⟩
  · obtain ⟨-, rfl, rfl⟩ := Double.finite.inj h
    exact ⟨⟨by omega, by omega, .inr (by omega)⟩, by omega⟩

theorem log2_of_canonical {m : ℕ} (hlt : m < 2 ^ 53) (hle : 2 ^ 52 ≤ m) : m.log2 = 52 :=
  (Nat.log2_eq_iff (by omega)).2 ⟨hle, hlt⟩

/-- **Packing a canonical number keeps it**, unless its exponent is too large. -/
theorem ofFloat_pack_finite (s : Sign) {m : ℕ} {e : ℤ} (hm : 0 < m) (h : IsCanonical m e) :
    ofFloat (.ofModel (.pack (.finite s m e hm))) =
      if e ≤ 971 then .finite (isNegative s) m e else .infinite (isNegative s) := by
  change ofBits (pack Format.binary64 (.finite s m e hm)).toNat = _
  have hle := h.le
  have hbias : (e + (Format.binary64.exponentBias : ℤ) + (Format.binary64.mantissaBitsWithoutImplicit : ℤ)).toNat =
      (e + 1075).toNat := by
    congr 1
    rw [add_assoc]
    rfl
  have hcapacity : 2 ^ Format.binary64.exponentBits = 2048 := rfl
  have hwidth : Format.binary64.mantissaBits = 53 := rfl
  delta pack
  dsimp only
  rw [hbias, hcapacity, hwidth]
  by_cases he : e ≤ 971
  · rw [if_pos he, if_neg (by omega)]
    by_cases hfull : 2 ^ 52 ≤ m
    · have hexponent : (BitVec.ofNat 11 (e + 1075).toNat).toNat = (e + 1075).toNat := by
        rw [BitVec.toNat_ofNat]; omega
      have hmantissa : (BitVec.ofNat 52 m).toNat = m - 2 ^ 52 := by
        have := h.lt
        rw [BitVec.toNat_ofNat]; omega
      rw [if_pos (by rw [log2_of_canonical h.lt hfull]), ofBits_packComponents, hexponent, hmantissa,
        if_neg (by omega), if_neg (by omega), Nat.add_sub_cancel' hfull, Int.toNat_of_nonneg (by omega),
        add_sub_cancel_right]
    · obtain rfl : e = -1074 := h.full.resolve_right hfull
      have hmantissa : (BitVec.ofNat 52 m).toNat = m := by
        rw [BitVec.toNat_ofNat]; omega
      have hlog : ¬ m.log2 + 1 = 53 := by
        have := (Nat.log2_lt hm.ne').2 (show m < 2 ^ 52 by omega)
        omega
      rw [if_neg hlog, ofBits_packComponents, hmantissa]
      rfl
  · rw [if_neg he, if_pos (by omega), packedInfinity, ofBits_packComponents]
    rfl

/-! ### Values -/

def signed (negative : Bool) (x : ℚ) : ℚ := if negative then -x else x

/-- The number of a double, zero where there is none. -/
def toRat : Double → ℚ
  | .finite negative m e => signed negative (m * 2 ^ e)
  | _ => 0

/-- The number that a float stands for, zero for those that stand for none. -/
def value (x : Float) : ℚ := (ofFloat x).toRat

theorem value_eq (x : Float) : value x = (ofUnpacked x.toModel.unpack).toRat := by rw [value, ofFloat_eq]

theorem canonical_of_unpack {x : Float} {s : Sign} {m : ℕ} {e : ℤ} {hm : 0 < m}
    (h : x.toModel.unpack = .finite s m e hm) : IsCanonical m e ∧ e ≤ 971 := by
  have hbits : ofBits x.toBits.toNat = .finite (isNegative s) m e := by
    change ofFloat x = _
    rw [ofFloat_eq, h]
    rfl
  exact canonical_of_ofBits hbits

@[simp]
theorem toRat_zero (s : Sign) : (ofUnpacked (.zero s)).toRat = 0 := by
  change signed (isNegative s) ((0 : ℕ) * 2 ^ (-1074 : ℤ)) = 0
  cases s <;> simp [isNegative, signed]

@[simp]
theorem toRat_positive {m : ℕ} {e : ℤ} (hm : 0 < m) :
    (ofUnpacked (.finite .positive m e hm)).toRat = m * 2 ^ e := rfl

@[simp]
theorem toRat_negative {m : ℕ} {e : ℤ} (hm : 0 < m) :
    (ofUnpacked (.finite .negative m e hm)).toRat = -(m * 2 ^ e) := rfl

theorem magnitude_pos {m : ℕ} (hm : 0 < m) (e : ℤ) : 0 < (m : ℚ) * 2 ^ e := by positivity

theorem finite_cases {x : Float} (h : x.isFinite = true) :
    (∃ s, x.toModel.unpack = .zero s) ∨
    ∃ s m e, ∃ hm : 0 < m, x.toModel.unpack = .finite s m e hm ∧ IsCanonical m e ∧ e ≤ 971 := by
  change x.toModel.unpack.isFinite = true at h
  cases hx : x.toModel.unpack with
  | infinity s => rw [hx] at h; cases h
  | notANumber => rw [hx] at h; cases h
  | zero s => exact .inl ⟨s, rfl⟩
  | finite s m e hm => exact .inr ⟨s, m, e, hm, rfl, canonical_of_unpack hx⟩

/-! ### The order -/

theorem IsCanonical.lt_of_lt {m m' : ℕ} {e e' : ℤ} (h : IsCanonical m e) (h' : IsCanonical m' e') (he : e < e') :
    (m : ℚ) * 2 ^ e < m' * 2 ^ e' := by
  have hm : (m : ℚ) < 2 ^ 53 := by exact_mod_cast h.lt
  have hm' : (2 : ℚ) ^ 52 ≤ m' := by
    have hfull := h'.full.resolve_left (by have := h.le; omega)
    exact_mod_cast hfull
  calc (m : ℚ) * 2 ^ e < 2 ^ 53 * 2 ^ e := by gcongr
    _ = 2 ^ 52 * 2 ^ (e + 1) := by rw [zpow_add₀ two_ne_zero]; ring
    _ ≤ m' * 2 ^ e' := by gcongr <;> first | exact one_le_two | omega

theorem IsCanonical.compare_eq {m m' : ℕ} {e e' : ℤ} (h : IsCanonical m e) (h' : IsCanonical m' e') :
    (compare e e').then (compare m m') = compare ((m : ℚ) * 2 ^ e) (m' * 2 ^ e') := by
  rcases lt_trichotomy e e' with he | rfl | he
  · rw [compare_lt_iff_lt.2 he, compare_lt_iff_lt.2 (h.lt_of_lt h' he)]
    rfl
  · rw [compare_eq_iff_eq.2 rfl]
    rcases lt_trichotomy m m' with hm | rfl | hm
    · rw [compare_lt_iff_lt.2 hm, compare_lt_iff_lt.2 (by gcongr)]
      rfl
    · rw [compare_eq_iff_eq.2 rfl, compare_eq_iff_eq.2 rfl]
      rfl
    · rw [compare_gt_iff_gt.2 hm, compare_gt_iff_gt.2 (by gcongr)]
      rfl
  · rw [compare_gt_iff_gt.2 he, compare_gt_iff_gt.2 (h'.lt_of_lt h he)]
    rfl

theorem swap_compare (x y : ℚ) : (compare x y).swap = compare (-x) (-y) := by
  rcases lt_trichotomy x y with h | rfl | h
  · rw [compare_lt_iff_lt.2 h, compare_gt_iff_gt.2 (neg_lt_neg h)]; rfl
  · rw [compare_eq_iff_eq.2 rfl, compare_eq_iff_eq.2 rfl]; rfl
  · rw [compare_gt_iff_gt.2 h, compare_lt_iff_lt.2 (neg_lt_neg h)]; rfl

/-- Finite doubles are compared by their values. -/
theorem compare_unpack {a b : Float} (ha : a.isFinite = true) (hb : b.isFinite = true) :
    a.toModel.unpack.compare b.toModel.unpack = some (compare (value a) (value b)) := by
  rw [value_eq, value_eq]
  rcases finite_cases ha with ⟨s, ha⟩ | ⟨s, m, e, hm, ha, hca, -⟩ <;>
    rcases finite_cases hb with ⟨s', hb⟩ | ⟨s', m', e', hm', hb, hcb, -⟩ <;> rw [ha, hb]
  · rw [toRat_zero, toRat_zero, compare_eq_iff_eq.2 rfl]
    rfl
  · have hpos := magnitude_pos hm' e'
    cases s' with
    | negative => rw [toRat_zero, toRat_negative, compare_gt_iff_gt.2 (neg_neg_of_pos hpos)]; rfl
    | positive => rw [toRat_zero, toRat_positive, compare_lt_iff_lt.2 hpos]; rfl
  · have hpos := magnitude_pos hm e
    cases s with
    | negative => rw [toRat_zero, toRat_negative, compare_lt_iff_lt.2 (neg_neg_of_pos hpos)]; rfl
    | positive => rw [toRat_zero, toRat_positive, compare_gt_iff_gt.2 hpos]; rfl
  · have hpos := magnitude_pos hm e
    have hpos' := magnitude_pos hm' e'
    have hcompare := hca.compare_eq hcb
    cases s <;> cases s'
    · change some ((compare e e').then (compare m m')).swap = _
      rw [toRat_negative, toRat_negative, hcompare, swap_compare]
    · rw [toRat_negative, toRat_positive, compare_lt_iff_lt.2 (by linarith)]; rfl
    · rw [toRat_positive, toRat_negative, compare_gt_iff_gt.2 (by linarith)]; rfl
    · change some ((compare e e').then (compare m m')) = _
      rw [toRat_positive, toRat_positive, hcompare]

theorem lt_iff {a b : Float} (ha : a.isFinite = true) (hb : b.isFinite = true) : a < b ↔ value a < value b := by
  have h : a < b ↔ (a.toModel.unpack.compare b.toModel.unpack == some .lt) = true := decide_eq_true_iff
  rw [h, compare_unpack ha hb, beq_iff_eq, Option.some_inj, compare_lt_iff_lt]

theorem beq_iff {a b : Float} (ha : a.isFinite = true) (hb : b.isFinite = true) :
    (a == b) = true ↔ value a = value b := by
  change (a.toModel.unpack.compare b.toModel.unpack == some .eq) = true ↔ _
  rw [compare_unpack ha hb, beq_iff_eq, Option.some_inj, compare_eq_iff_eq]

end BenchCompare.Double
