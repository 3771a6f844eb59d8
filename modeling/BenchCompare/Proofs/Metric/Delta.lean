import BenchCompare.Metric
import BenchCompare.Proofs.Double.Range

/-!
# Relative changes

* `IsPercentage s`: the text is a number with its sign and two places in percent. `isPercentage_fixed`: the text of a
  finite double is one.
* `Delta.between_eq`: a change is undefined for the base zero only.
* `Delta.quotient_cases`, `Delta.percent_cases`: the quotient and the percentage are finite or have overflown.
* `Delta.Presentable c`: nothing but numbers is shown for the change.

Main statement: `presentable_between`.
-/

namespace BenchCompare

/-! ### Percentages -/

/-- A sign, a whole number, a point, two places and a percent sign. -/
def IsPercentage (s : String) : Prop :=
  ∃ sign ∈ ['+', '-'], ∃ whole places : List Char, s.toList = sign :: whole ++ '.' :: places ++ ['%'] ∧
    whole ≠ [] ∧ places.length = 2 ∧ ∀ c ∈ whole ++ places, c.isDigit = true

theorem IsPercentage.isDigit_or_mem {s : String} (h : IsPercentage s) :
    ∀ c ∈ s.toList, c.isDigit = true ∨ c ∈ ['+', '-', '.', '%'] := by
  obtain ⟨sign, hsign, whole, places, hs, -, -, hdigits⟩ := h
  intro c hc
  rw [hs] at hc
  simp only [List.cons_append, List.mem_cons, List.mem_append, List.append_assoc, List.not_mem_nil, or_false]
    at hc hsign hdigits ⊢
  rcases hc with rfl | hc | rfl | hc | rfl
  · rcases hsign with rfl | rfl <;> simp
  · exact .inl (hdigits c (.inl hc))
  · simp
  · exact .inl (hdigits c (.inr hc))
  · simp

/-- A finite double in percent. -/
theorem isPercentage_fixed {x : Float} (h : (Double.ofFloat x).IsFinite) :
    IsPercentage (Decimal.fixed 2 true x ++ "%") := by
  rw [Decimal.fixed]
  cases hx : Double.ofFloat x with
  | infinite negative => rw [hx] at h; exact absurd h id
  | notANumber => rw [hx] at h; exact absurd h id
  | finite negative m e =>
    dsimp only
    generalize Decimal.roundQuotient _ _ = n
    have hsign : ∃ sign ∈ ['+', '-'], (Decimal.sign true negative).toList = [sign] := by
      cases negative <;> exact ⟨_, by decide, rfl⟩
    obtain ⟨sign, hmem, hsign⟩ := hsign
    have hlength : (Nat.toDigits 10 (n % 100)).length ≤ 2 :=
      (Nat.length_toDigits_le_iff (by decide) (by decide)).2 (Nat.mod_lt n (by decide))
    refine ⟨sign, hmem, Nat.toDigits 10 (n / 100),
      List.replicate (2 - (Nat.toDigits 10 (n % 100)).length) '0' ++ Nat.toDigits 10 (n % 100), ?_,
      Nat.toDigits_ne_nil, ?_, fun c hc => ?_⟩
    · rw [Decimal.withPlaces, if_neg (by decide)]
      dsimp only
      simp only [String.toList_append, hsign, Decimal.numeral, String.toList_ofList, String.length_ofList]
      simp
    · rw [List.length_append, List.length_replicate]
      omega
    · simp only [List.mem_append] at hc
      rcases hc with hc | hc | hc
      · exact Nat.isDigit_of_mem_toDigits (by decide) (by decide) hc
      · obtain rfl := List.eq_of_mem_replicate hc
        decide
      · exact Nat.isDigit_of_mem_toDigits (by decide) (by decide) hc

theorem not_isPercentage_of_mem {s : String} (h : 'i' ∈ s.toList) : ¬ IsPercentage s :=
  fun hs => absurd (hs.isDigit_or_mem 'i' h) (by decide)

namespace Delta

open Double (value limit)

/-! ### The steps of a change -/

theorem value_zero : value 0.0 = 0 := by
  have h : Double.ofFloat 0.0 = .finite false 0 (-1074) := by rfl
  rw [value, h, Double.toRat, Double.signed]
  simp

theorem value_hundred : value 100.0 = 100 := by
  have h : Double.ofFloat 100.0 = .finite false 7036874417766400 (-46) := by rfl
  rw [value, h, Double.toRat, Double.signed]
  norm_num

/-- A change between finite values is undefined for the base zero only. -/
theorem between_eq {old new : Float} (hold : old.isFinite = true) (hnew : new.isFinite = true) :
    between old new = if value old = 0 then .undefined else .defined ((new - old) / old) := by
  have hzero : (old == 0.0) = true ↔ value old = 0 := by
    rw [Double.beq_iff hold (by rfl), value_zero]
  rw [between, hold, hnew]
  by_cases h : value old = 0
  · rw [if_pos h, hzero.2 h]
    rfl
  · rw [if_neg h, Bool.eq_false_iff.2 (mt hzero.1 h)]
    rfl

section Steps

variable {old new : Float} (hold : old.isFinite = true) (hnew : new.isFinite = true) (h : value old ≠ 0)

include hold hnew h

/-- The quotient is finite where neither the difference nor the quotient itself overflows. -/
theorem quotient_cases :
    let noOverflow := |value new - value old| < limit ∧ |value (new - old) / value old| < limit
    ((Double.ofFloat ((new - old) / old)).IsFinite ∧ noOverflow) ∨
    ((∃ negative, Double.ofFloat ((new - old) / old) = .infinite negative) ∧ ¬ noOverflow) := by
  intro noOverflow
  rcases (Double.isRounding_sub hnew hold).finite_or_infinite with ⟨hd, hlt⟩ | ⟨hd, hle⟩
  · have hdiv := Double.isRounding_div (Double.isFinite_iff.2 hd) hold h
    rcases hdiv.finite_or_infinite with ⟨hq, hlt'⟩ | ⟨hq, hle⟩
    · exact .inl ⟨hq, hlt, hlt'⟩
    · exact .inr ⟨⟨_, hq⟩, fun hlt' => absurd hlt'.2 hle.not_gt⟩
  · exact .inr ⟨⟨_, Double.ofFloat_div_infinite hd hold h⟩, fun hlt => absurd hlt.1 hle.not_gt⟩

/-- The percentage is finite where none of the three steps overflows, and else infinite with the sign of the change. -/
theorem percent_cases :
    let noOverflow := |value new - value old| < limit ∧ |value (new - old) / value old| < limit ∧
      |value ((new - old) / old) * 100| < limit
    ((Double.ofFloat ((new - old) / old)).IsFinite ∧ (Double.ofFloat ((new - old) / old * 100.0)).IsFinite ∧
      noOverflow) ∨
    (Double.ofFloat ((new - old) / old * 100.0) = .infinite (decide ((value new - value old) / value old < 0)) ∧
      ¬ noOverflow) := by
  intro noOverflow
  have hundred : (100.0 : Float).isFinite = true := by rfl
  have hsgn := Double.sgn_change hold hnew h
  rw [← Double.sign_div] at hsgn
  rcases quotient_cases hold hnew h with ⟨hq, hd, hlt⟩ | ⟨⟨negative, hq⟩, hover⟩
  · have hmul := Double.isRounding_mul (Double.isFinite_iff.2 hq) hundred
    rw [value_hundred] at hmul
    rcases hmul.finite_or_infinite with ⟨hp, hlt'⟩ | ⟨hp, hle⟩
    · exact .inl ⟨hq, hp, hd, hlt, hlt'⟩
    · have hnegative : value ((new - old) / old) * 100 < 0 ↔ (value new - value old) / value old < 0 := by
        rw [← sign_eq_neg_one_iff, ← sign_eq_neg_one_iff, ← hsgn, Double.sgn_toRat hq, sign_mul,
          sign_pos (by norm_num : (0 : ℚ) < 100), mul_one]
        rfl
      rw [decide_eq_decide.2 hnegative] at hp
      exact .inr ⟨hp, fun hlt' => absurd hlt'.2.2 hle.not_gt⟩
  · have hp := Double.ofFloat_mul_infinite hq hundred (by rw [value_hundred]; norm_num)
    rw [value_hundred, decide_eq_false (by norm_num), Bool.bne_false] at hp
    rw [hq] at hsgn
    exact .inr ⟨Double.negative_of_sgn hsgn ▸ hp, fun hlt => hover ⟨hlt.1, hlt.2.1⟩⟩

end Steps

/-! ### What is shown -/

/-- Nothing but numbers is shown: a value is finite, and the text is a percentage unless the change is undefined. -/
def Presentable (c : Delta) : Prop :=
  (∀ v, c.value? = some v → v.isFinite = true) ∧ (c.display = "n/a" ∨ IsPercentage c.display)

theorem presentable_undefined : Presentable .undefined := ⟨fun v hv => (by cases hv), .inl rfl⟩

theorem presentable_defined {v : Float} (hv : (Double.ofFloat v).IsFinite)
    (hpercent : (Double.ofFloat (v * 100.0)).IsFinite) : Presentable (.defined v) := by
  refine ⟨fun w hw => ?_, .inr (isPercentage_fixed hpercent)⟩
  obtain rfl : v = w := Option.some.inj hw
  exact Double.isFinite_iff.2 hv

theorem display_infinite {v : Float} {negative : Bool} (h : Double.ofFloat (v * 100.0) = .infinite negative) :
    display (.defined v) = if negative then "-inf%" else "+inf%" := by
  rw [display, Decimal.fixed, h]
  cases negative <;> rfl

/-- The text of an infinite percentage has letters, which no percentage has. -/
theorem not_presentable_infinite {v : Float} {negative : Bool}
    (h : Double.ofFloat (v * 100.0) = .infinite negative) : ¬ Presentable (.defined v) := by
  rintro ⟨-, htext⟩
  rw [display_infinite h] at htext
  cases negative with
  | false => exact htext.elim (by decide) (not_isPercentage_of_mem (by decide))
  | true => exact htext.elim (by decide) (not_isPercentage_of_mem (by decide))

/-- **A change between finite values is undefined for the base zero only, and presentable unless a step overflows.**
The difference, its quotient by the base and the percentage are all rounded, and each of them has to stay below the
limit of the doubles. Where one does not, the text is infinite with the sign of the change. It is never that of a value
that is no number. -/
theorem presentable_between (old new : Float) (hold : old.isFinite = true) (hnew : new.isFinite = true) :
    let change := between old new
    (change.value? = none ↔ value old = 0) ∧
    (change.Presentable ↔ value old = 0 ∨ |value new - value old| < limit ∧
      |value (new - old) / value old| < limit ∧ |value ((new - old) / old) * 100| < limit) ∧
    (¬ change.Presentable → change.display =
      if (value new - value old) / value old < 0 then "-inf%" else "+inf%") := by
  dsimp only
  rw [between_eq hold hnew]
  by_cases h : value old = 0
  · rw [if_pos h]
    exact ⟨iff_of_true rfl h, iff_of_true presentable_undefined (.inl h), absurd presentable_undefined⟩
  · rw [if_neg h]
    refine ⟨iff_of_false (Option.some_ne_none _) h, ?_⟩
    rcases percent_cases hold hnew h with ⟨hquotient, hpercent, hlimit⟩ | ⟨hpercent, hover⟩
    · have hpresentable := presentable_defined hquotient hpercent
      exact ⟨iff_of_true hpresentable (.inr hlimit), absurd hpresentable⟩
    · refine ⟨iff_of_false (not_presentable_infinite hpercent) (not_or.2 ⟨h, hover⟩), fun _ => ?_⟩
      rw [display_infinite hpercent]
      simp only [decide_eq_true_eq]

/-- A change within the limits, and what is shown for it. -/
theorem presentable_between_percent :
    (8 : Float).isFinite = true ∧ (6 : Float).isFinite = true ∧ (between 8 6).Presentable ∧
      (between 8 6).display = "-25.00%" := by
  have hdisplay : (between 8 6).display = "-25.00%" := by decide +kernel
  have h8 : (8 : Float).isFinite = true := by decide +kernel
  have h6 : (6 : Float).isFinite = true := by decide +kernel
  refine ⟨h8, h6, ?_, hdisplay⟩
  by_contra hn
  have h := (presentable_between 8 6 h8 h6).2.2 hn
  rw [hdisplay] at h
  split_ifs at h
  · exact absurd h (by decide)
  · exact absurd h (by decide)

/-- The quotient of two magnitudes far from each other overflows, and infinity is shown. -/
theorem between_overflow :
    (1e-300 : Float).isFinite = true ∧ (1e300 : Float).isFinite = true ∧ (between 1e-300 1e300).display = "+inf%" ∧
      ¬ (between 1e-300 1e300).Presentable := by
  have hdisplay : (between 1e-300 1e300).display = "+inf%" := by decide +kernel
  refine ⟨by decide +kernel, by decide +kernel, hdisplay, ?_⟩
  rw [Presentable, hdisplay]
  rintro ⟨-, htext⟩
  exact htext.elim (by decide) (not_isPercentage_of_mem (by decide))

end Delta

end BenchCompare
