import BenchCompare.Proofs.Timestamp.Calendar
import BenchCompare.Timestamp.Basic
import Mathlib.Algebra.Group.Nat.Defs
import Mathlib.Data.List.TakeWhile

/-!
# Reading times

* `number?_padded`: a number is read back from its digits with zeros in front. `number?_lt`: a number that is read has
  no more digits than asked for.
* `ofChars?_written`: a time in UTC with whole seconds is read back from its fields.
* `exists_of_ofChars?`: a time that is read has a date of the calendar in the years up to 9999, a second of that day,
  less than a second beyond it, and an offset of less than a day.
* `year_of_ofText?`: in UTC such a time may lie in the year before or in the year after.
-/

namespace BenchCompare.Moment

/-! ### Numbers -/

theorem digitValue?_of_isDigit {c : Char} (h : c.isDigit = true) : digitValue? c = some (c.toNat - '0'.toNat) := by
  rw [digitValue?, if_pos h]
  rfl

theorem number?_go_append {ds : List Char} (h : ∀ c ∈ ds, c.isDigit = true) (acc : Nat) (rest : List Char) :
    number?.go ds.length acc (ds ++ rest) = some (Nat.ofDigitChars 10 ds acc, rest) := by
  induction ds generalizing acc with
  | nil => rfl
  | cons c ds ih =>
    rw [List.length_cons, List.cons_append, number?.go, digitValue?_of_isDigit (h c List.mem_cons_self), Option.bind_some,
      ih fun c' hc' => h c' (List.mem_cons_of_mem c hc')]
    rfl

theorem toList_padded (width n : Nat) : (padded width n).toList =
    List.replicate (width - (Nat.toDigits 10 n).length) '0' ++ Nat.toDigits 10 n := by
  simp only [padded, Decimal.numeral, String.toList_append, String.toList_ofList, String.length_ofList]

section Padded

variable {width n : Nat}

theorem isDigit_of_mem_padded {c : Char} (h : c ∈ (padded width n).toList) : c.isDigit = true := by
  rw [toList_padded] at h
  rcases List.mem_append.1 h with h | h
  · rw [List.eq_of_mem_replicate h]
    decide
  · exact Nat.isDigit_of_mem_toDigits (by decide) (by decide) h

theorem length_padded (hw : 0 < width) (hn : n < 10 ^ width) : (padded width n).toList.length = width := by
  have hlength := (Nat.length_toDigits_le_iff (b := 10) (by decide) hw).2 hn
  rw [toList_padded, List.length_append, List.length_replicate]
  exact Nat.sub_add_cancel hlength

theorem ofDigitChars_padded (width n : Nat) : Nat.ofDigitChars 10 (padded width n).toList 0 = n := by
  have hzeros (k : Nat) : Nat.ofDigitChars 10 (List.replicate k '0') 0 = 0 := by
    induction k with
    | zero => rfl
    | succ k ih => exact ih
  rw [toList_padded, Nat.ofDigitChars_append, hzeros, Nat.ofDigitChars_toDigits (by decide) (by decide)]

theorem number?_padded (hw : 0 < width) (hn : n < 10 ^ width) (rest : List Char) :
    number? width ((padded width n).toList ++ rest) = some (n, rest) := by
  have hgo := number?_go_append (fun c (hc : c ∈ (padded width n).toList) => isDigit_of_mem_padded hc) 0 rest
  rwa [length_padded hw hn, ofDigitChars_padded] at hgo

end Padded

/-! ### Bounds -/

theorem digit_lt {c : Char} (h : c.isDigit = true) : c.toNat - 0x30 < 10 := by
  have hle : c.toNat ≤ 57 := by
    simp only [Char.isDigit, Bool.and_eq_true, decide_eq_true_eq] at h
    exact h.2
  omega

theorem digitValue?_lt {c : Char} {d : Nat} (h : digitValue? c = some d) : d < 10 := by
  unfold digitValue? at h
  split at h
  · next hc => exact Option.some.inj h ▸ digit_lt hc
  · cases h

theorem digit_step {acc d n k : Nat} (hd : d < 10) (hn : n < (10 * acc + d + 1) * 10 ^ k) : n < (acc + 1) * 10 ^ (k + 1) :=
  calc n < (10 * acc + d + 1) * 10 ^ k := hn
    _ ≤ (10 * (acc + 1)) * 10 ^ k := Nat.mul_le_mul_right _ (by omega)
    _ = (acc + 1) * 10 ^ (k + 1) := by rw [Nat.pow_succ', ← Nat.mul_assoc, Nat.mul_comm (acc + 1)]

theorem number?_go_lt {width acc n : Nat} {l rest : List Char} (h : number?.go width acc l = some (n, rest)) :
    n < (acc + 1) * 10 ^ width := by
  induction width generalizing acc l with
  | zero =>
    obtain ⟨rfl, -⟩ := Prod.mk.inj (Option.some.inj h)
    omega
  | succ width ih =>
    cases l with
    | nil => cases h
    | cons c l =>
      obtain ⟨d, hd, hrest⟩ := Option.bind_eq_some_iff.1 h
      exact digit_step (digitValue?_lt hd) (ih hrest)

theorem number?_lt {width n : Nat} {l rest : List Char} (h : number? width l = some (n, rest)) : n < 10 ^ width := by
  have hlt := number?_go_lt h
  rwa [Nat.zero_add, Nat.one_mul] at hlt

theorem foldl_digits_lt {ds : List Nat} (h : ∀ d ∈ ds, d < 10) (acc : Nat) :
    ds.foldl (fun n d => 10 * n + d) acc < (acc + 1) * 10 ^ ds.length := by
  induction ds generalizing acc with
  | nil => simp
  | cons d ds ih =>
    exact digit_step (h d List.mem_cons_self) (ih (fun d' hd' => h d' (List.mem_cons_of_mem d hd')) (10 * acc + d))

theorem fraction_lt {ds : List Nat} (h : ∀ d ∈ ds, d < 10) : fraction ds < 1000000000 := by
  have hdigits : ∀ d ∈ (ds ++ List.replicate 9 0).take 9, d < 10 := by
    intro d hd
    rcases List.mem_append.1 (List.mem_of_mem_take hd) with hd | hd
    · exact h d hd
    · rw [List.eq_of_mem_replicate hd]
      decide
  have hlength : ((ds ++ List.replicate 9 0).take 9).length = 9 := by simp
  have hlt := foldl_digits_lt hdigits 0
  rwa [hlength] at hlt

theorem nanos?_lt {n : Nat} {l rest : List Char} (h : nanos? l = some (n, rest)) : n < 1000000000 := by
  unfold nanos? at h
  split at h
  · split at h
    · cases h
    · next ds hds =>
      obtain ⟨rfl, -⟩ := Prod.mk.inj (Option.some.inj h)
      refine fraction_lt fun d hd => ?_
      obtain ⟨c, hc, rfl⟩ := List.mem_map.1 hd
      exact digit_lt (List.mem_takeWhile_imp hc)
  · obtain ⟨rfl, -⟩ := Prod.mk.inj (Option.some.inj h)
    decide

theorem offset?_lt {offset : Int} {l rest : List Char} (h : offset? l = some (offset, rest)) :
    -86400 < offset ∧ offset < 86400 := by
  unfold offset? at h
  split at h
  · cases h
  split at h
  · obtain ⟨rfl, -⟩ := Prod.mk.inj (Option.some.inj h)
    decide
  split at h
  · obtain ⟨⟨hours, l⟩, -, h⟩ := Option.bind_eq_some_iff.1 h
    obtain ⟨l, -, h⟩ := Option.bind_eq_some_iff.1 h
    obtain ⟨⟨minutes, l⟩, -, h⟩ := Option.bind_eq_some_iff.1 h
    dsimp only at h
    split at h
    · next hbounds =>
      rw [Bool.and_eq_true, decide_eq_true_iff, decide_eq_true_iff] at hbounds
      obtain ⟨hoffset, -⟩ := Prod.mk.inj (Option.some.inj h)
      split at hoffset <;> omega
    · cases h
  · cases h

/-! ### Whole times -/

/-- **What a time that is read consists of.** -/
theorem exists_of_ofChars? {l : List Char} {m : Moment} (h : ofChars? l = some m) :
    ∃ (date : Calendar.Date) (second nanos : Nat) (offset : Int), m = ofDateAndSeconds date second nanos offset ∧
      date.Valid ∧ 0 ≤ date.year ∧ date.year ≤ 9999 ∧ second < 86400 ∧ nanos < 1000000000 ∧
      -86400 < offset ∧ offset < 86400 := by
  obtain ⟨⟨year, l⟩, hyear, h⟩ := Option.bind_eq_some_iff.1 h
  obtain ⟨l, -, h⟩ := Option.bind_eq_some_iff.1 h
  obtain ⟨⟨month, l⟩, -, h⟩ := Option.bind_eq_some_iff.1 h
  obtain ⟨l, -, h⟩ := Option.bind_eq_some_iff.1 h
  obtain ⟨⟨day, l⟩, -, h⟩ := Option.bind_eq_some_iff.1 h
  obtain ⟨l, -, h⟩ := Option.bind_eq_some_iff.1 h
  obtain ⟨⟨hour, l⟩, -, h⟩ := Option.bind_eq_some_iff.1 h
  obtain ⟨l, -, h⟩ := Option.bind_eq_some_iff.1 h
  obtain ⟨⟨minute, l⟩, -, h⟩ := Option.bind_eq_some_iff.1 h
  obtain ⟨l, -, h⟩ := Option.bind_eq_some_iff.1 h
  obtain ⟨⟨second, l⟩, -, h⟩ := Option.bind_eq_some_iff.1 h
  obtain ⟨⟨nanos, l⟩, hnanos, h⟩ := Option.bind_eq_some_iff.1 h
  obtain ⟨⟨offset, l⟩, hoffset, h⟩ := Option.bind_eq_some_iff.1 h
  dsimp only at h
  have hyear := number?_lt hyear
  have hnanos := nanos?_lt hnanos
  have hoffset := offset?_lt hoffset
  split at h
  · next hbounds =>
    simp only [Bool.and_eq_true, decide_eq_true_eq] at hbounds
    obtain ⟨⟨⟨⟨-, hdate⟩, hhour⟩, hminute⟩, hsecond⟩ := hbounds
    split at h
    · -- a second 60 stands for the end of the second before
      split at h
      · obtain rfl := Option.some.inj h
        exact ⟨_, _, _, _, rfl, hdate, by dsimp only; omega, by dsimp only; omega, by omega, by decide, hoffset⟩
      · cases h
    · next hne =>
      obtain rfl := Option.some.inj h
      rw [beq_iff_eq] at hne
      exact ⟨_, _, _, _, rfl, hdate, by dsimp only; omega, by dsimp only; omega, by omega, hnanos, hoffset⟩
  · cases h

/-- A time is read from fields that are read one after the other. -/
theorem ofChars?_of_read {year month day hour minute second nanos : Nat} {offset : Int}
    {l l1 l2 l3 l4 l5 l6 l7 l8 l9 l10 l11 l12 : List Char} (hyear : number? 4 l = some (year, l1))
    (h1 : after? '-' l1 = some l2) (hmonth : number? 2 l2 = some (month, l3)) (h3 : after? '-' l3 = some l4)
    (hday : number? 2 l4 = some (day, l5)) (h5 : separator? l5 = some l6) (hhour : number? 2 l6 = some (hour, l7))
    (h7 : after? ':' l7 = some l8) (hminute : number? 2 l8 = some (minute, l9)) (h9 : after? ':' l9 = some l10)
    (hsecond : number? 2 l10 = some (second, l11)) (hnanos : nanos? l11 = some (nanos, l12))
    (hoffset : offset? l12 = some (offset, []))
    (hdate : ({ year, month, day } : Calendar.Date).Valid) (hhour' : hour ≤ 23) (hminute' : minute ≤ 59)
    (hsecond' : second ≤ 59) :
    ofChars? l = some (ofDateAndSeconds { year, month, day } (hour * 3600 + minute * 60 + second) nanos offset) := by
  refine Option.bind_eq_some_iff.2 ⟨_, hyear, ?_⟩
  refine Option.bind_eq_some_iff.2 ⟨_, h1, ?_⟩
  refine Option.bind_eq_some_iff.2 ⟨_, hmonth, ?_⟩
  refine Option.bind_eq_some_iff.2 ⟨_, h3, ?_⟩
  refine Option.bind_eq_some_iff.2 ⟨_, hday, ?_⟩
  refine Option.bind_eq_some_iff.2 ⟨_, h5, ?_⟩
  refine Option.bind_eq_some_iff.2 ⟨_, hhour, ?_⟩
  refine Option.bind_eq_some_iff.2 ⟨_, h7, ?_⟩
  refine Option.bind_eq_some_iff.2 ⟨_, hminute, ?_⟩
  refine Option.bind_eq_some_iff.2 ⟨_, h9, ?_⟩
  refine Option.bind_eq_some_iff.2 ⟨_, hsecond, ?_⟩
  refine Option.bind_eq_some_iff.2 ⟨_, hnanos, ?_⟩
  refine Option.bind_eq_some_iff.2 ⟨_, hoffset, ?_⟩
  have hleap : ¬ (second == 60) = true := by
    rw [beq_iff_eq]
    omega
  have hsecond60 : second ≤ 60 := by omega
  dsimp only
  rw [if_pos (by simp [hdate, hhour', hminute', hsecond60]), if_neg hleap]

theorem after?_cons (c : Char) (rest : List Char) : after? c (c :: rest) = some rest := if_pos (beq_self_eq_true c)

/-- **A time in UTC is read back from its fields.** -/
theorem ofChars?_written {year month day hour minute second : Nat} (hyear : year ≤ 9999)
    (hdate : ({ year, month, day } : Calendar.Date).Valid) (hhour : hour ≤ 23) (hminute : minute ≤ 59)
    (hsecond : second ≤ 59) :
    ofChars? ((padded 4 year).toList ++ '-' :: ((padded 2 month).toList ++ '-' :: ((padded 2 day).toList ++
      ' ' :: ((padded 2 hour).toList ++ ':' :: ((padded 2 minute).toList ++ ':' :: ((padded 2 second).toList ++
      ['Z'])))))) =
      some (ofDateAndSeconds { year, month, day } (hour * 3600 + minute * 60 + second) 0 0) := by
  have hmonth : month ≤ 12 := hdate.2.1
  have hday : day ≤ 31 := hdate.2.2.2.trans (Calendar.monthLength_le _ _)
  have htwo (n : Nat) (hn : n < 100) (rest : List Char) : number? 2 ((padded 2 n).toList ++ rest) = some (n, rest) :=
    number?_padded (by decide) hn rest
  exact ofChars?_of_read (number?_padded (by decide) (by omega) _) (after?_cons _ _) (htwo month (by omega) _)
    (after?_cons _ _) (htwo day (by omega) _) rfl (htwo hour (by omega) _) (after?_cons _ _)
    (htwo minute (by omega) _) (after?_cons _ _) (htwo second (by omega) _) rfl rfl hdate hhour hminute hsecond

theorem nanos_lt_of_ofText? {s : String} {m : Moment} (h : ofText? s = some m) : m.nanos < 1000000000 := by
  obtain ⟨-, -, nanos, -, rfl, -, -, -, -, hnanos, -⟩ := exists_of_ofChars? h
  exact hnanos

/-- **A time that is read lies, in UTC, at most a day outside the years that can be written.** -/
theorem year_of_ofText? {s : String} {m : Moment} (h : ofText? s = some m) : -1 ≤ m.date.year ∧ m.date.year ≤ 10000 := by
  obtain ⟨date, second, nanos, offset, rfl, hdate, hfirst, hlast, hsecond, -, hoffset, hoffset'⟩ := exists_of_ofChars? h
  have hday := Calendar.ofDayNumber_dayNumber hdate
  have hfrom : Calendar.yearDays 0 ≤ Calendar.dayNumber date := by
    rw [← Int.not_lt, ← Calendar.year_ofDayNumber_lt_iff, hday]
    omega
  have hto : Calendar.dayNumber date < Calendar.yearDays 10000 := by
    rw [← Calendar.year_ofDayNumber_lt_iff, hday]
    omega
  have hbefore : Calendar.yearDays (-1) < Calendar.yearDays 0 := by decide +kernel
  have hafter : Calendar.yearDays 10000 < Calendar.yearDays (10000 + 1) := by decide +kernel
  -- the second of the day and the offset lead to the day before or after at most
  constructor
  · rw [← Int.not_lt, Moment.date, Calendar.year_ofDayNumber_lt_iff, ofDateAndSeconds]
    dsimp only
    omega
  · rw [← Int.lt_add_one_iff, Moment.date, Calendar.year_ofDayNumber_lt_iff, ofDateAndSeconds]
    dsimp only
    omega

end BenchCompare.Moment
