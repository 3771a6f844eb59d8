import BenchCompare.Proofs.Metric.Delta
import BenchCompare.Report.Basic

/-!
# Trends

* `Metric.downward`: the families in which a smaller value is the improvement. `lowerIsBetter_eq`: the table says so.
* `Metric.Improves metric old new`: the change is in the direction of the metric.
* `Metric.direction metric old new`: the trend that two values themselves tell.
* `Metric.ofSign metric sign`: the trend of a sign. `trend_defined`, `direction_eq`: both trends come from one.

Main statement: `trend_ofEntry`.
-/

namespace BenchCompare

def Trend.reverse : Trend → Trend
  | .better => .worse
  | .worse => .better
  | .unchanged => .unchanged

open Double (value)

namespace Metric

/-! ### Direction -/

/-- The families in which a smaller value is the improvement. -/
def downward : List String := ["latency", "errors", "reconnects", "cpu_time", "mem_alloc"]

theorem lowerIsBetter_eq (metric : String) : lowerIsBetter metric = decide (familyName metric ∈ downward) := by
  rw [lowerIsBetter, family?]
  generalize familyName metric = name
  by_cases h : name ∈ families.map (·.name)
  · simp only [families, List.map_cons, List.map_nil, List.mem_cons, List.not_mem_nil, or_false] at h
    rcases h with rfl | rfl | rfl | rfl | rfl | rfl | rfl <;> rfl
  · have hnone : families.find? (·.name == name) = none :=
      List.find?_eq_none.2 fun f hf hname => h (beq_iff_eq.1 hname ▸ List.mem_map_of_mem hf)
    have hdownward : downward ⊆ families.map (·.name) := by decide
    rw [hnone, decide_eq_false fun hmem => h (hdownward hmem)]
    rfl

/-- The change from one value to another is in the direction in which the metric improves. -/
def Improves (metric : String) (old new : Float) : Prop :=
  if familyName metric ∈ downward then new < old else old < new

instance (metric : String) (old new : Float) : Decidable (Improves metric old new) :=
  inferInstanceAs (Decidable (if familyName metric ∈ downward then new < old else old < new))

/-- What the two values themselves say of a change. -/
def direction (metric : String) (old new : Float) : Trend :=
  if new == old then .unchanged else if Improves metric old new then .better else .worse

/-! ### Trends from signs -/

/-- A trend as the sign of a change gives it. -/
def ofSign (metric : String) (sign : SignType) : Trend :=
  if sign = 0 then .unchanged
  else if decide (sign = -1) == decide (familyName metric ∈ downward) then .better
  else .worse

theorem ofSign_eq_unchanged_iff (metric : String) (sign : SignType) : ofSign metric sign = .unchanged ↔ sign = 0 := by
  rw [ofSign]
  split_ifs with h <;> simp [h]

theorem ofSign_neg (metric : String) (sign : SignType) : ofSign metric (-sign) = (ofSign metric sign).reverse := by
  rw [ofSign, ofSign]
  cases sign <;> cases decide (familyName metric ∈ downward) <;> rfl

theorem trend_defined (metric : String) {v : Float} (hv : Double.ofFloat v ≠ .notANumber) :
    trend metric (.defined v) = ofSign metric (Double.ofFloat v).sgn := by
  have hzero : (v == 0.0) = decide ((Double.ofFloat v).sgn = 0) := by
    rw [Bool.eq_iff_iff, Double.beq_zero_iff hv, decide_eq_true_iff]
  have hneg : decide (v < 0.0) = decide ((Double.ofFloat v).sgn = -1) := decide_eq_decide.2 (Double.lt_zero_iff hv)
  rw [trend, ofSign, hzero, hneg, lowerIsBetter_eq]
  simp only [decide_eq_true_iff]

theorem direction_eq (metric : String) {old new : Float} (hold : old.isFinite = true) (hnew : new.isFinite = true) :
    direction metric old new = ofSign metric (SignType.sign (value new - value old)) := by
  have heq := Double.beq_iff hnew hold
  rcases eq_or_ne (value new) (value old) with h | h
  · rw [direction, if_pos (heq.2 h), sub_eq_zero.2 h, sign_zero]
    rfl
  · rw [direction, if_neg (mt heq.1 h), ofSign, if_neg (sign_ne_zero.2 (sub_ne_zero.2 h))]
    refine if_congr ?_ rfl rfl
    rw [Improves, beq_iff_eq, decide_eq_decide, sign_eq_neg_one_iff, sub_neg]
    by_cases hd : familyName metric ∈ downward
    · rw [if_pos hd, Double.lt_iff hnew hold, iff_true_right hd]
    · rw [if_neg hd, Double.lt_iff hold hnew, iff_false_right hd, not_lt]
      exact ⟨le_of_lt, fun hle => lt_of_le_of_ne hle h.symm⟩

end Metric

/-! ### The trend of a row -/

namespace Row

/-- For a base other than zero, the trend is that of the signs of the difference and the base. -/
theorem trend_eq_ofSign (metric : String) {old new : Float} (hold : old.isFinite = true) (hnew : new.isFinite = true)
    (h : value old ≠ 0) : (ofEntry (metric, ⟨old, new⟩)).trend =
      Metric.ofSign metric (SignType.sign (value new - value old) * SignType.sign (value old)) := by
  have hnumber : Double.ofFloat ((new - old) / old) ≠ .notANumber := by
    intro hnan
    rcases Delta.quotient_cases hold hnew h with ⟨hq, -⟩ | ⟨⟨negative, hq⟩, -⟩
    · rw [hnan] at hq
      exact hq
    · rw [hnan] at hq
      cases hq
  change Metric.trend metric (Delta.between old new) = _
  rw [Delta.between_eq hold hnew, if_neg h, Metric.trend_defined metric hnumber, Double.sgn_change hold hnew h]

/-- **The trend of a row tells the direction for a positive base and its opposite for a negative one.** For a zero
base the change is undefined. A row is unchanged where its values are equal, however small their difference would be
beside the base. -/
theorem trend_ofEntry (metric : String) (old new : Float) (hold : old.isFinite = true)
    (hnew : new.isFinite = true) (hdefined : (Delta.between old new).value?.isSome = true) :
    let trend := (ofEntry (metric, ⟨old, new⟩)).trend
    (trend = .unchanged ↔ (new == old) = true) ∧
    (0.0 < old → trend = Metric.direction metric old new) ∧
    (old < 0.0 → trend = (Metric.direction metric old new).reverse) ∧ (0.0 < old ∨ old < 0.0) := by
  have hzero : (0.0 : Float).isFinite = true := by rfl
  have hne : value old ≠ 0 := by
    intro h
    rw [Delta.between_eq hold hnew, if_pos h] at hdefined
    exact Bool.noConfusion hdefined
  dsimp only
  rw [trend_eq_ofSign metric hold hnew hne, Metric.direction_eq metric hold hnew, Double.lt_iff hzero hold,
    Double.lt_iff hold hzero, Delta.value_zero, ← Metric.ofSign_neg, Metric.ofSign_eq_unchanged_iff,
    Double.beq_iff hnew hold]
  refine ⟨?_, fun h => by rw [sign_pos h, mul_one], fun h => by rw [sign_neg h, mul_neg_one], ?_⟩
  · rw [mul_eq_zero, sign_eq_zero_iff, sign_eq_zero_iff, or_iff_left hne, sub_eq_zero]
  · exact (lt_or_gt_of_ne hne).symm

/-- A latency that falls, from a positive base. -/
theorem trend_ofEntry_positive :
    (8 : Float).isFinite = true ∧ (6 : Float).isFinite = true ∧ (Delta.between 8 6).value?.isSome = true ∧
      (ofEntry ("latency.p99", ⟨8, 6⟩)).trend = .better := by
  have h8 : (8 : Float).isFinite = true := by decide +kernel
  have h6 : (6 : Float).isFinite = true := by decide +kernel
  have hdefined : (Delta.between 8 6).value?.isSome = true := by decide +kernel
  have htrend := (trend_ofEntry "latency.p99" 8 6 h8 h6 hdefined).2.1 (by decide +kernel)
  refine ⟨h8, h6, hdefined, htrend.trans ?_⟩
  decide +kernel

/-- A latency that falls from a negative base counts as worse. -/
theorem trend_ofEntry_negative :
    (-1 : Float).isFinite = true ∧ (-2 : Float).isFinite = true ∧ (Delta.between (-1) (-2)).value?.isSome = true ∧
      Metric.direction "latency" (-1) (-2) = .better ∧ (ofEntry ("latency", ⟨-1, -2⟩)).trend = .worse := by
  decide +kernel

end Row

end BenchCompare
