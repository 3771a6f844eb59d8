import BenchCompare.Config
import BenchCompare.Proofs.Decimal.Fixed
import BenchCompare.Proofs.Metric.Delta
import BenchCompare.Proofs.Report.Canonical
import BenchCompare.Report.Table
import Mathlib.Data.String.Basic

/-!
# The columns of a table

Columns have a fixed width, and a text that is longer than its column overhangs it and moves the rest of its line.

* `Cells`: the texts of a line behind its label. `Cells.overhangs`: what each of them takes beyond its column.
  `Cells.ends`: where each of them ends. `ends_eq`: how the one gives the other.
* `dataLines r`: the lines with cells. `dataLines_eq_filter`: these are the long lines of the table.
* `FitsColumn v`, `Delta.FitsColumn c`: there is room for a value or a change in its column. `length_valueText_le_iff`,
  `Delta.length_display_le_iff`: this says how long its text is.
* `LinesAlike r`, `CellsAlike r`: the lines with cells have one length, and the cells stand under their headings.

Main statement: `dataLines_aligned_iff`.
-/

namespace BenchCompare

open Double (value)

/-! ### Characters and bytes -/

theorem Text.length_le_utf8ByteSize (s : String) : s.length ≤ s.utf8ByteSize := by
  have h (l : List Char) : l.length ≤ String.utf8Len l := by
    induction l with
    | nil => exact Nat.le_refl 0
    | cons c l ih =>
      have := c.utf8Size_pos
      rw [List.length_cons, String.utf8Len_cons]
      omega
  rw [← String.utf8Len_toList, ← String.length_toList]
  exact h s.toList

/-! ### Values and changes in their columns -/

/-- There is room for a value with so many digits before the point if it is whole, and with three less if it has a
point and two places, to which it is rounded. -/
def HasRoom (digits : ℕ) (v : ℚ) : Prop :=
  if v.den = 1 then |v| < 10 ^ digits else |v| < 10 ^ (digits - 3) - 1 / 200

/-- Fourteen characters have room for a value, one of them for the sign of a negative value. -/
def FitsColumn (v : ℚ) : Prop := HasRoom (if v < 0 then 13 else 14) v

theorem hasRoom_zero (digits : ℕ) : HasRoom digits 0 := by
  rw [HasRoom, if_pos Rat.den_zero, abs_zero]
  positivity

theorem lt_sub_half_iff {v : ℚ} (hv : v.den = 1) (n : ℕ) : v < n - 1 / 2 ↔ v < n := by
  obtain ⟨z, rfl⟩ : ∃ z : ℤ, v = z := ⟨v.num, ((Rat.den_eq_one_iff v).1 hv).symm⟩
  constructor
  · intro h
    linarith
  · intro h
    have hz : z + 1 ≤ (n : ℤ) := by exact_mod_cast h
    have hz' : (z : ℚ) + 1 ≤ n := by exact_mod_cast hz
    linarith

section Value

variable {x : Float} {negative : Bool} {m : ℕ} {e : ℤ} (h : Double.ofFloat x = .finite negative m e)
include h

/-- Places are shown unless the value is whole and below the bound. -/
theorem valueText_eq :
    valueText x = Decimal.fixed (if (value x).den = 1 ∧ |value x| < 10 ^ 15 then 0 else 2) false x := by
  have hbound : ((Nat.pow 10 15 : ℕ) : ℚ) = 10 ^ 15 := by norm_num
  have hbelow := Double.isWholeBelow_iff h (Nat.pow 10 15)
  rw [hbound] at hbelow
  rw [valueText]
  simp only [hbelow]

theorem length_valueText_le_iff_hasRoom :
    (valueText x).length ≤ 14 ↔ HasRoom (if negative then 13 else 14) (value x) := by
  have hsign : (Decimal.sign false negative).length + (if negative then 13 else 14) = 14 := by cases negative <;> rfl
  have hle : 13 ≤ if negative then 13 else 14 := by cases negative <;> decide
  generalize (if negative then 13 else 14) = digits at hsign hle ⊢
  have hpow : (10 ^ (digits - 3) : ℚ) < 10 ^ 15 ∧ (10 ^ digits : ℚ) < 10 ^ 15 :=
    ⟨pow_lt_pow_right₀ (by norm_num) (by omega), pow_lt_pow_right₀ (by norm_num) (by omega)⟩
  -- the point and two places take the room of three digits
  have hplaces := Decimal.length_fixed_le_iff h 2 false (k := digits - 3) (by omega)
  have htail : (Decimal.sign false negative).length + (digits - 3) + Decimal.tailLength 2 = 14 := by
    rw [Decimal.tailLength, if_neg (by decide)]
    omega
  rw [htail] at hplaces
  have hwhole := Decimal.length_fixed_le_iff h 0 false (k := digits) (by omega)
  rw [Decimal.tailLength, if_pos rfl, Nat.add_zero, hsign] at hwhole
  rw [valueText_eq h, HasRoom]
  by_cases hden : (value x).den = 1
  · rw [if_pos hden]
    by_cases hlt : |value x| < 10 ^ 15
    · rw [if_pos ⟨hden, hlt⟩, hwhole]
      have hhalf := lt_sub_half_iff ((Rat.den_abs_eq_den _).trans hden) (10 ^ digits)
      push_cast at hhalf
      rw [← hhalf, pow_zero, div_one]
    · rw [if_neg fun hb => hlt hb.2, hplaces]
      exact iff_of_false (by linarith) (by linarith)
  · rw [if_neg hden, if_neg fun hb => hden hb.1, hplaces]
    norm_num

theorem length_valueText_le_iff_of_finite : (valueText x).length ≤ 14 ↔ FitsColumn (value x) := by
  rw [length_valueText_le_iff_hasRoom h, FitsColumn]
  by_cases hzero : value x = 0
  · rw [hzero]
    exact iff_of_true (hasRoom_zero _) (hasRoom_zero _)
  · have hnegative : negative = decide (value x < 0) := by
      have hmagnitude : (0 : ℚ) ≤ m * 2 ^ e := by positivity
      rw [value, h, Double.toRat] at hzero ⊢
      cases negative with
      | false => exact (decide_eq_false hmagnitude.not_gt).symm
      | true => exact (decide_eq_true (lt_of_le_of_ne (neg_nonpos.2 hmagnitude) hzero)).symm
    rw [hnegative]
    simp only [decide_eq_true_eq]

end Value

/-- **A value is at most fourteen characters long exactly if there is room for it.** The value of a double that is not
finite is zero, and its text is short. -/
theorem length_valueText_le_iff (x : Float) : (valueText x).length ≤ 14 ↔ FitsColumn (value x) := by
  cases h : Double.ofFloat x with
  | finite negative m e => exact length_valueText_le_iff_of_finite h
  | infinite negative =>
    rw [valueText, Decimal.fixed, value, h]
    exact iff_of_true (by cases negative <;> decide) (hasRoom_zero _)
  | notANumber =>
    rw [valueText, Decimal.fixed, value, h]
    exact iff_of_true (by decide) (hasRoom_zero _)

namespace Delta

/-- Nine characters have room for the sign of a change, four digits before the point, two places and the sign of the
percentage. -/
def FitsColumn : Delta → Prop
  | .defined v => |value (v * 100.0)| < 10 ^ 4 - 1 / 200
  | .undefined => True

/-- **A change is at most nine characters long exactly if there is room for its percentage.** -/
theorem length_display_le_iff (c : Delta) : c.display.length ≤ 9 ↔ c.FitsColumn := by
  cases c with
  | undefined => exact iff_of_true (by decide) trivial
  | defined v =>
    rw [FitsColumn]
    cases h : Double.ofFloat (v * 100.0) with
    | finite negative m e =>
      have hlength := Decimal.length_fixed_le_iff h 2 true (k := 4) (by decide)
      have hsign : (Decimal.sign true negative).length + 4 + Decimal.tailLength 2 = 8 := by cases negative <;> rfl
      have hpercent : "%".length = 1 := rfl
      rw [hsign] at hlength
      rw [display, String.length_append, hpercent]
      refine (Nat.succ_le_succ_iff.trans hlength).trans ?_
      norm_num
    | infinite negative =>
      rw [display_infinite h, value, h]
      exact iff_of_true (by cases negative <;> decide) (by norm_num [Double.toRat])
    | notANumber =>
      rw [display, Decimal.fixed, value, h]
      exact iff_of_true (by decide) (by norm_num [Double.toRat])

end Delta

structure Sample.FitsColumns (s : Sample) : Prop where
  old : FitsColumn (value s.old)
  new : FitsColumn (value s.new)
  delta : (Delta.between s.old s.new).FitsColumn

/-! ### Cells -/

namespace Report

open Text (padStart padEnd)

/-- The texts of a line behind its label. -/
structure Cells where
  old : String
  new : String
  delta : String

namespace Cells

variable (c : Cells)

def overhangs : List ℕ := [c.old.length - 14, c.new.length - 14, c.delta.length - 9]

/-- The number of characters up to the end of each cell. -/
def ends (width : ℕ) (label : String) : List ℕ :=
  let first := padEnd width label ++ "  " ++ padStart 14 c.old
  let second := first ++ "  " ++ padStart 14 c.new
  [first.length, second.length, (second ++ "  " ++ padStart 9 c.delta).length]

def line (width : ℕ) (label : String) : String := tableLine width label c.old c.new c.delta

section Ends

variable {width : ℕ} {label : String} (h : label.length ≤ width)
include h

theorem ends_eq : c.ends width label =
    [width + 16 + (c.old.length - 14), width + 32 + (c.old.length - 14) + (c.new.length - 14),
      width + 43 + c.overhangs.sum] := by
  have hgap : "  ".length = 2 := rfl
  simp only [ends, overhangs, String.length_append, Text.length_padEnd, Text.length_padStart, hgap, List.sum_cons,
    List.sum_nil, Nat.max_eq_left h, List.cons.injEq, and_true]
  omega

theorem length_line : (c.line width label).length = width + 43 + c.overhangs.sum := by
  have hlast := congrArg List.getLast? (c.ends_eq h)
  exact Option.some.inj hlast

end Ends

theorem sum_overhangs_eq_zero_iff :
    c.overhangs.sum = 0 ↔ c.old.length ≤ 14 ∧ c.new.length ≤ 14 ∧ c.delta.length ≤ 9 := by
  simp only [overhangs, List.sum_cons, List.sum_nil]
  omega

theorem overhangs_eq_zero_iff : c.overhangs = [0, 0, 0] ↔ c.overhangs.sum = 0 := by
  simp only [overhangs, List.sum_cons, List.sum_nil, List.cons.injEq, and_true]
  omega

end Cells

/-! ### Lines of a table -/

section Lines

variable (r : Report)

def headingCells : Cells := ⟨heading r.oldWorkload "old", heading r.newWorkload "new", "delta"⟩

def rowCells (row : Row) : Cells := ⟨valueText row.old, valueText row.new, row.delta.display⟩

def labelledCells : List (String × Cells) :=
  ("metric", r.headingCells) :: r.rows.map fun row => (row.label, rowCells row)

/-- The lines of the table that have cells. -/
def dataLines : List String := r.labelledCells.map fun e => e.2.line r.labelWidth e.1

theorem dataLines_eq : r.dataLines = r.headingLine :: r.rows.map (rowLine r.labelWidth) := by
  rw [dataLines, labelledCells, List.map_cons, List.map_map]
  rfl

theorem foldl_max_le_iff {l : List ℕ} {least n : ℕ} : l.foldl max least ≤ n ↔ least ≤ n ∧ ∀ k ∈ l, k ≤ n := by
  induction l generalizing least with
  | nil => simp
  | cons k l ih => rw [List.foldl_cons, ih, max_le_iff, List.forall_mem_cons, and_assoc]

/-- Labels have no more characters than bytes, so none is longer than its column. -/
theorem length_label_le : 6 ≤ r.labelWidth ∧ ∀ e ∈ r.labelledCells, e.1.length ≤ r.labelWidth := by
  obtain ⟨hleast, hlabels⟩ := foldl_max_le_iff.1 (Nat.le_refl r.labelWidth)
  have hmetric : "metric".length = 6 := rfl
  refine ⟨hleast, List.forall_mem_cons.2 ⟨hmetric.trans_le hleast, List.forall_mem_map.2 fun row hrow => ?_⟩⟩
  exact (Text.length_le_utf8ByteSize row.label).trans (hlabels _ (List.mem_map_of_mem hrow))

theorem length_of_mem_dataLines : ∀ line ∈ r.dataLines, 49 ≤ line.length := by
  obtain ⟨hleast, hlabels⟩ := r.length_label_le
  refine List.forall_mem_map.2 fun e he => ?_
  rw [e.2.length_line (hlabels e he)]
  omega

/-- All other lines are shorter: they are empty or have the title of a section. -/
theorem dataLines_eq_filter : r.dataLines = r.tableLines.filter (49 ≤ ·.length) := by
  have hlong := r.length_of_mem_dataLines
  rw [dataLines_eq] at hlong ⊢
  obtain ⟨hheading, hrows⟩ := List.forall_mem_cons.1 hlong
  have htitle (s : Section) : ¬ 49 ≤ ("[" ++ s.title ++ "]").length := by
    rw [Section.title]
    cases s.category <;> decide
  have hsection (s : Section) (hs : s ∈ r.sections) :
      (sectionLines r.labelWidth s).filter (49 ≤ ·.length) = s.rows.map (rowLine r.labelWidth) := by
    have hkept : (s.rows.map (rowLine r.labelWidth)).filter (49 ≤ ·.length) =
        s.rows.map (rowLine r.labelWidth) := by
      refine List.filter_eq_self.2 (List.forall_mem_map.2 fun row hrow => decide_eq_true ?_)
      exact hrows _ (List.mem_map_of_mem (List.mem_flatMap.2 ⟨s, hs, hrow⟩))
    rw [sectionLines, List.filter_cons_of_neg (by decide), List.filter_cons_of_neg (by simpa using htitle s), hkept]
  rw [tableLines, List.filter_cons_of_pos (by simpa using hheading), List.filter_flatMap, rows, List.map_flatMap]
  congr 1
  exact (List.flatMap_congr hsection).symm

end Lines

/-! ### Alignment -/

section Alignment

variable (r : Report)

/-- All lines with cells are as long as the heading line. -/
def LinesAlike : Prop := ∀ line ∈ r.dataLines, line.length = r.headingLine.length

/-- All cells end where the heading of their column ends. -/
def CellsAlike : Prop :=
  ∀ e ∈ r.labelledCells, e.2.ends r.labelWidth e.1 = r.headingCells.ends r.labelWidth "metric"

instance : Decidable r.LinesAlike :=
  inferInstanceAs (Decidable (∀ line ∈ r.dataLines, line.length = r.headingLine.length))

instance : Decidable r.CellsAlike := inferInstanceAs (Decidable
  (∀ e ∈ r.labelledCells, e.2.ends r.labelWidth e.1 = r.headingCells.ends r.labelWidth "metric"))

theorem linesAlike_iff :
    r.LinesAlike ↔ ∀ e ∈ r.labelledCells, e.2.overhangs.sum = r.headingCells.overhangs.sum := by
  obtain ⟨hleast, hlabels⟩ := r.length_label_le
  rw [LinesAlike, dataLines, List.forall_mem_map]
  refine forall₂_congr fun e he => ?_
  have hheading : r.headingLine.length = r.labelWidth + 43 + r.headingCells.overhangs.sum :=
    r.headingCells.length_line hleast
  rw [e.2.length_line (hlabels e he), hheading, Nat.add_left_cancel_iff]

theorem cellsAlike_iff :
    r.CellsAlike ↔ ∀ e ∈ r.labelledCells, e.2.overhangs = r.headingCells.overhangs := by
  obtain ⟨hleast, hlabels⟩ := r.length_label_le
  refine forall₂_congr fun e he => ?_
  rw [e.2.ends_eq (hlabels e he), r.headingCells.ends_eq hleast]
  simp only [Cells.overhangs, List.sum_cons, List.sum_nil, List.cons.injEq, and_true]
  omega

end Alignment

section OfPayload

variable {p : Payload}

theorem forall_mem_rows_ofPayload {P : Row → Prop} :
    (∀ row ∈ (ofPayload p).rows, P row) ↔ ∀ e ∈ p.metrics.entries, P (.ofEntry e) := by
  simp only [(perm_rows_ofPayload p).mem_iff, List.forall_mem_map]

theorem sum_overhangs_rowCells (e : String × Sample) :
    (rowCells (.ofEntry e)).overhangs.sum = 0 ↔ e.2.FitsColumns := by
  rw [Cells.sum_overhangs_eq_zero_iff]
  have hold := length_valueText_le_iff e.2.old
  have hnew := length_valueText_le_iff e.2.new
  have hdelta := (Delta.between e.2.old e.2.new).length_display_le_iff
  exact ⟨fun ⟨h₁, h₂, h₃⟩ => ⟨hold.1 h₁, hnew.1 h₂, hdelta.1 h₃⟩,
    fun h => ⟨hold.2 h.old, hnew.2 h.new, hdelta.2 h.delta⟩⟩

theorem length_heading_le {workload fallback : String} {n : ℕ} (h : workload.length ≤ n) (hf : fallback.length ≤ n) :
    (heading workload fallback).length ≤ n := by
  rw [heading]
  split
  · exact hf
  · exact h

theorem sum_overhangs_headingCells (hold : p.oldWorkload.length ≤ 14) (hnew : p.newWorkload.length ≤ 14) :
    (ofPayload p).headingCells.overhangs.sum = 0 :=
  (Cells.sum_overhangs_eq_zero_iff _).2
    ⟨length_heading_le hold (by decide), length_heading_le hnew (by decide), show "delta".length ≤ 9 by decide⟩

/-- Under a heading that overhangs nowhere, no row may overhang. -/
theorem forall_overhangs_iff (h : (ofPayload p).headingCells.overhangs.sum = 0) :
    (∀ e ∈ (ofPayload p).labelledCells, e.2.overhangs.sum = 0) ↔ ∀ e ∈ p.metrics.entries, e.2.FitsColumns := by
  rw [labelledCells, List.forall_mem_cons, List.forall_mem_map, forall_mem_rows_ofPayload, and_iff_right h]
  exact forall₂_congr fun e _ => sum_overhangs_rowCells e

end OfPayload

/-- **The lines of a table are alike exactly if their cells overhang alike.** The lines with cells are the heading line
and those of the rows. They have one length if the cells of each line take as much beyond their columns as the headings
do, and their cells stand under their headings if this is so in each column. Labels never overhang. Where the names of
the workloads fit into their columns, both say that the values and the change of every metric fit. -/
theorem dataLines_aligned_iff (p : Payload) :
    let r := ofPayload p
    r.dataLines = r.tableLines.filter (49 ≤ ·.length) ∧
    (r.LinesAlike ↔ ∀ e ∈ r.labelledCells, e.2.overhangs.sum = r.headingCells.overhangs.sum) ∧
    (r.CellsAlike ↔ ∀ e ∈ r.labelledCells, e.2.overhangs = r.headingCells.overhangs) ∧
    (p.oldWorkload.length ≤ 14 → p.newWorkload.length ≤ 14 →
      (r.LinesAlike ↔ ∀ e ∈ p.metrics.entries, e.2.FitsColumns) ∧
      (r.CellsAlike ↔ ∀ e ∈ p.metrics.entries, e.2.FitsColumns)) := by
  intro r
  refine ⟨r.dataLines_eq_filter, r.linesAlike_iff, r.cellsAlike_iff, fun hold hnew => ?_⟩
  have hheading := sum_overhangs_headingCells hold hnew
  rw [linesAlike_iff, cellsAlike_iff, hheading, (Cells.overhangs_eq_zero_iff _).2 hheading]
  simp only [Cells.overhangs_eq_zero_iff]
  exact ⟨forall_overhangs_iff hheading, forall_overhangs_iff hheading⟩

/-- Short names and a metric that fits. -/
theorem dataLines_aligned_tps :
    let p : Payload := ⟨"TPCC", "TPCC_FK", ⟨[("tps", ⟨1, 2.5⟩)], by decide⟩⟩
    p.oldWorkload.length ≤ 14 ∧ p.newWorkload.length ≤ 14 ∧ (ofPayload p).LinesAlike ∧
      (∀ e ∈ p.metrics.entries, e.2.FitsColumns) ∧ (ofPayload p).CellsAlike := by
  intro p
  have hold : p.oldWorkload.length ≤ 14 := by decide
  have hnew : p.newWorkload.length ≤ 14 := by decide
  have hlines : (ofPayload p).LinesAlike := by decide +kernel
  obtain ⟨hiff, hiff'⟩ := (dataLines_aligned_iff p).2.2.2 hold hnew
  exact ⟨hold, hnew, hlines, hiff.1 hlines, hiff'.2 (hiff.1 hlines)⟩

/-- The name of a workload that is offered by default overhangs, and the values stand left of the end of its heading. -/
theorem dataLines_unaligned_default :
    let p : Payload := ⟨"TPCC", "TPCC_FK_UNMANAGED", ⟨[("qps.total", ⟨100, 120⟩)], by decide⟩⟩
    p.oldWorkload ∈ ({} : Config).workloads ∧ p.newWorkload ∈ ({} : Config).workloads ∧
    (∀ e ∈ p.metrics.entries, e.2.old.isFinite = true ∧ e.2.new.isFinite = true) ∧
    (ofPayload p).dataLines =
      ["metric               TPCC  TPCC_FK_UNMANAGED      delta",
       "Total QPS             100             120    +20.00%"] ∧
    ¬ (ofPayload p).LinesAlike ∧ ¬ (ofPayload p).CellsAlike := by
  decide +kernel

end Report

end BenchCompare
