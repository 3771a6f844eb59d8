import BenchCompare.Timestamp.Calendar
import Mathlib.Order.Monotone.Basic

/-!
# Dates and their numbers

* `lastStart_spec`, `lastStart_eq`: the last start that is not after `x` is the one that has `x` between it and the
  next.
* `Place`: a day by its cycle of 400 years, the year in the cycle, the month in the year and the day in the month, all
  counted from zero. `exists_place_of_number`, `exists_place_of_date`: numbers and dates are those of places.
  `Place.dayNumber_date`, `Place.ofDayNumber_number`: a place has one date and one number.
* `valid_ofDayNumber`, `dayNumber_ofDayNumber`, `ofDayNumber_dayNumber`: the dates of the calendar and all numbers belong
  to one another.
* `yearDays`: the days before a year. `year_ofDayNumber_lt_iff`: these are the days whose dates have an earlier year.
* `Date.next`: the day after a date. `ofDayNumber_succ`: it has the next number, so numbers count the days.
-/

namespace BenchCompare.Calendar

/-! ### The last start -/

section LastStart

variable {start : Nat → Nat} {x n m : Nat}

theorem lastStart_spec (hfirst : start 0 ≤ x) (hlast : x < start n) :
    lastStart start x n < n ∧ start (lastStart start x n) ≤ x ∧ x < start (lastStart start x n + 1) := by
  induction n with
  | zero => exact absurd hfirst (Nat.not_le.2 hlast)
  | succ n ih =>
    rw [lastStart]
    split
    · next hn => exact ⟨Nat.lt_succ_self n, hn, hlast⟩
    · next hn =>
      obtain ⟨hlt, hspec⟩ := ih (Nat.not_le.1 hn)
      exact ⟨hlt.trans (Nat.lt_succ_self n), hspec⟩

theorem lastStart_eq (hmono : Monotone start) (hm : m < n) (hle : start m ≤ x) (hlt : x < start (m + 1)) :
    lastStart start x n = m := by
  obtain ⟨-, hle', hlt'⟩ := lastStart_spec ((hmono (Nat.zero_le m)).trans hle) (hlt.trans_le (hmono hm))
  rcases Nat.lt_trichotomy (lastStart start x n) m with hbefore | heq | hafter
  · exact absurd (hlt'.trans_le (hmono hbefore)) (Nat.not_lt.2 hle)
  · exact heq
  · exact absurd (hlt.trans_le (hmono hafter)) (Nat.not_lt.2 hle')

end LastStart

/-! ### Years and months -/

def yearLength (leap : Bool) : Nat := if leap then 366 else 365

theorem isLeap_cycle (cycle year : Int) : isLeap (cycle * 400 + year) = isLeap year := by
  have h4 : (cycle * 400 + year) % 4 = year % 4 := by omega
  have h100 : (cycle * 400 + year) % 100 = year % 100 := by omega
  have h400 : (cycle * 400 + year) % 400 = year % 400 := by omega
  rw [isLeap, isLeap, h4, h100, h400]

theorem yearStart_succ (y : Nat) : yearStart (y + 1) = yearStart y + yearLength (isLeap y) := by
  have hleap : isLeap y = true ↔ y % 4 = 0 ∧ y % 100 ≠ 0 ∨ y % 400 = 0 := by
    simp only [isLeap, Bool.or_eq_true, Bool.and_eq_true, beq_iff_eq, bne_iff_ne]
    omega
  have h4 : (y + 1 + 3) / 4 = (y + 3) / 4 + if y % 4 = 0 then 1 else 0 := by split <;> omega
  have h100 : (y + 1 + 99) / 100 = (y + 99) / 100 + if y % 100 = 0 then 1 else 0 := by split <;> omega
  have h400 : (y + 1 + 399) / 400 = (y + 399) / 400 + if y % 400 = 0 then 1 else 0 := by split <;> omega
  have hle : (y + 99) / 100 ≤ y := by omega
  have h100of : y % 400 = 0 → y % 100 = 0 := by omega
  have h4of : y % 100 = 0 → y % 4 = 0 := by omega
  rw [yearStart, yearStart, h4, h100, h400, yearLength]
  cases hl : isLeap y with
  | true =>
    rcases hleap.1 hl with ⟨c4, c100⟩ | c400
    · rw [if_pos c4, if_neg c100, if_neg (mt h100of c100), if_pos rfl]
      omega
    · rw [if_pos (h4of (h100of c400)), if_pos (h100of c400), if_pos c400, if_pos rfl]
      omega
  | false =>
    have hnot := mt hleap.2 (Bool.eq_false_iff.1 hl)
    rw [not_or, not_and, not_not] at hnot
    rw [if_neg hnot.2, if_neg Bool.false_ne_true]
    by_cases c4 : y % 4 = 0
    · rw [if_pos c4, if_pos (hnot.1 c4)]
      omega
    · rw [if_neg c4, if_neg (mt h4of c4)]
      omega

theorem monotone_yearStart : Monotone yearStart :=
  monotone_nat_of_le_succ fun y => yearStart_succ y ▸ Nat.le_add_right _ _

theorem yearStart_last : yearStart 400 = cycleDays := rfl

theorem monthStart_succ (leap : Bool) (m : Nat) :
    monthStart leap (m + 2) = monthStart leap (m + 1) + monthLength leap (m + 1) := by
  have hshift : ∀ (months : List Nat) (days : Nat), months.foldr (fun m days => monthLength leap (m + 1) + days) days =
      months.foldr (fun m days => monthLength leap (m + 1) + days) 0 + days := by
    intro months days
    induction months with
    | nil => exact (Nat.zero_add days).symm
    | cons m months ih => rw [List.foldr_cons, ih, List.foldr_cons, Nat.add_assoc]
  show (List.range (m + 1)).foldr _ 0 = _
  rw [List.range_succ, List.foldr_append, hshift]
  rfl

theorem monotone_monthStart (leap : Bool) : Monotone fun m => monthStart leap (m + 1) :=
  monotone_nat_of_le_succ fun m => monthStart_succ leap m ▸ Nat.le_add_right _ _

theorem monthStart_last (leap : Bool) : monthStart leap 13 = yearLength leap := by cases leap <;> rfl

theorem monthLength_pos (leap : Bool) (m : Nat) : 1 ≤ monthLength leap m := by
  unfold monthLength
  split
  · cases leap <;> decide
  all_goals decide

theorem monthLength_le (leap : Bool) (m : Nat) : monthLength leap m ≤ 31 := by
  unfold monthLength
  split
  · cases leap <;> decide
  all_goals decide

/-! ### Places of days -/

/-- A day by the cycle of 400 years, the year in it, the month in that and the day in that, all counted from zero. -/
structure Place where
  cycle : Int
  year : Nat
  month : Nat
  day : Nat

namespace Place

def leap (p : Place) : Bool := isLeap p.year

structure Valid (p : Place) : Prop where
  year_lt : p.year < 400
  month_lt : p.month < 12
  day_lt : p.day < monthLength p.leap (p.month + 1)

def date (p : Place) : Date := { year := p.cycle * 400 + p.year, month := p.month + 1, day := p.day + 1 }

def dayInYear (p : Place) : Nat := monthStart p.leap (p.month + 1) + p.day

def dayInCycle (p : Place) : Nat := yearStart p.year + p.dayInYear

def number (p : Place) : Int := p.cycle * cycleDays + p.dayInCycle

variable {p : Place}

theorem leap_date (p : Place) : isLeap p.date.year = p.leap := isLeap_cycle p.cycle p.year

theorem Valid.date (h : p.Valid) : p.date.Valid := by
  have hday := h.day_lt
  have hmonth := h.month_lt
  rw [Date.Valid, leap_date]
  exact ⟨Nat.succ_pos _, hmonth, Nat.succ_pos _, hday⟩

theorem Valid.dayInYear_lt (h : p.Valid) : p.dayInYear < monthStart p.leap (p.month + 2) := by
  rw [monthStart_succ, dayInYear]
  exact Nat.add_lt_add_left h.day_lt _

theorem Valid.dayInCycle_lt (h : p.Valid) : p.dayInCycle < yearStart (p.year + 1) := by
  rw [yearStart_succ, dayInCycle, ← leap, ← monthStart_last]
  exact Nat.add_lt_add_left (h.dayInYear_lt.trans_le (monotone_monthStart p.leap h.month_lt)) _

theorem Valid.dayInCycle_lt_cycleDays (h : p.Valid) : p.dayInCycle < cycleDays :=
  h.dayInCycle_lt.trans_le (monotone_yearStart h.year_lt)

theorem Valid.dayNumber_date (h : p.Valid) : dayNumber p.date = p.number := by
  have hyear := h.year_lt
  have hcycle : p.date.year / 400 = p.cycle := by
    show (p.cycle * 400 + p.year) / 400 = p.cycle
    omega
  have hinCycle : (p.date.year % 400).toNat = p.year := by
    show ((p.cycle * 400 + p.year) % 400).toNat = p.year
    omega
  have hday : p.date.day - 1 = p.day := rfl
  have hmonth : p.date.month = p.month + 1 := rfl
  rw [dayNumber, hcycle, hinCycle, leap_date, hday, hmonth, number, dayInCycle, dayInYear]
  push_cast
  omega

theorem Valid.ofDayNumber_number (h : p.Valid) : ofDayNumber p.number = p.date := by
  have hlt := h.dayInCycle_lt_cycleDays
  have hmod : (p.number % cycleDays).toNat = p.dayInCycle := by
    unfold number cycleDays at *
    omega
  have hdiv : p.number / cycleDays = p.cycle := by
    unfold number cycleDays at *
    omega
  have hyear : lastStart yearStart p.dayInCycle 400 = p.year :=
    lastStart_eq monotone_yearStart h.year_lt (Nat.le_add_right _ _) h.dayInCycle_lt
  have hinYear : p.dayInCycle - yearStart p.year = p.dayInYear := Nat.add_sub_cancel_left _ _
  have hmonth : lastStart (fun m => monthStart p.leap (m + 1)) p.dayInYear 12 = p.month :=
    lastStart_eq (monotone_monthStart p.leap) h.month_lt (Nat.le_add_right _ _) h.dayInYear_lt
  have hday : p.dayInYear - monthStart p.leap (p.month + 1) = p.day := Nat.add_sub_cancel_left _ _
  unfold ofDayNumber
  dsimp only
  rw [hmod, hdiv, hyear, hinYear, isLeap_cycle, ← leap, hmonth, hday]
  rfl

end Place

theorem exists_place_of_number (n : Int) : ∃ p : Place, p.Valid ∧ p.number = n := by
  have hin : (n % cycleDays).toNat < yearStart 400 := by
    rw [yearStart_last]
    unfold cycleDays
    omega
  -- the last year and the last month that start by then
  obtain ⟨hyear, hyle, hylt⟩ := lastStart_spec (Nat.zero_le _) hin
  generalize hy : lastStart yearStart (n % cycleDays).toNat 400 = y at hyear hyle hylt
  let start (m : Nat) : Nat := monthStart (isLeap y) (m + 1)
  have hfirst : start 0 ≤ (n % cycleDays).toNat - yearStart y := Nat.zero_le _
  have hlast : (n % cycleDays).toNat - yearStart y < start 12 := by
    show _ < monthStart (isLeap y) 13
    rw [monthStart_last]
    rw [yearStart_succ] at hylt
    omega
  obtain ⟨hmonth, hmle, hmlt⟩ := lastStart_spec hfirst hlast
  generalize lastStart start _ 12 = m at hmonth hmle hmlt
  have hmlt : (n % cycleDays).toNat - yearStart y < monthStart (isLeap y) (m + 2) := hmlt
  rw [monthStart_succ] at hmlt
  have hmle : monthStart (isLeap y) (m + 1) ≤ (n % cycleDays).toNat - yearStart y := hmle
  refine ⟨⟨n / cycleDays, y, m, (n % cycleDays).toNat - yearStart y - monthStart (isLeap y) (m + 1)⟩,
    ⟨hyear, hmonth, ?_⟩, ?_⟩
  · show (n % cycleDays).toNat - yearStart y - monthStart (isLeap y) (m + 1) < monthLength (isLeap y) (m + 1)
    omega
  · unfold Place.number Place.dayInCycle Place.dayInYear Place.leap
    dsimp only
    have hdivmod := Int.emod_add_mul_ediv n cycleDays
    unfold cycleDays at *
    omega

theorem exists_place_of_date {d : Date} (h : d.Valid) : ∃ p : Place, p.Valid ∧ p.date = d := by
  obtain ⟨hmonth, hmonth', hday, hday'⟩ := h
  have hyear : d.year / 400 * 400 + (d.year % 400).toNat = d.year := by omega
  have hleap : isLeap (d.year % 400).toNat = isLeap d.year := by
    rw [← isLeap_cycle (d.year / 400), hyear]
  refine ⟨⟨d.year / 400, (d.year % 400).toNat, d.month - 1, d.day - 1⟩, ⟨?_, ?_, ?_⟩, ?_⟩
  · show (d.year % 400).toNat < 400
    omega
  · show d.month - 1 < 12
    omega
  · show d.day - 1 < monthLength (isLeap _) (d.month - 1 + 1)
    rw [hleap, Nat.sub_add_cancel hmonth]
    omega
  · rw [Place.date]
    dsimp only
    rw [hyear, Nat.sub_add_cancel hmonth, Nat.sub_add_cancel hday]

/-! ### Dates and numbers -/

theorem valid_ofDayNumber (n : Int) : (ofDayNumber n).Valid := by
  obtain ⟨p, hp, rfl⟩ := exists_place_of_number n
  rw [hp.ofDayNumber_number]
  exact hp.date

/-- **A number is that of its date.** -/
theorem dayNumber_ofDayNumber (n : Int) : dayNumber (ofDayNumber n) = n := by
  obtain ⟨p, hp, rfl⟩ := exists_place_of_number n
  rw [hp.ofDayNumber_number, hp.dayNumber_date]

/-- **A date is that of its number.** -/
theorem ofDayNumber_dayNumber {d : Date} (h : d.Valid) : ofDayNumber (dayNumber d) = d := by
  obtain ⟨p, hp, rfl⟩ := exists_place_of_date h
  rw [hp.dayNumber_date, hp.ofDayNumber_number]

/-! ### The days before a year -/

def yearDays (year : Int) : Int := year / 400 * cycleDays + yearStart (year % 400).toNat

theorem yearDays_succ (year : Int) : yearDays (year + 1) = yearDays year + yearLength (isLeap year) := by
  have hsplit : year / 400 * 400 + (year % 400).toNat = year := by omega
  have hstep := yearStart_succ (year % 400).toNat
  rw [← isLeap_cycle (year / 400), hsplit] at hstep
  unfold yearDays
  by_cases hlast : (year % 400).toNat + 1 = 400
  · have hcycle : (year + 1) / 400 = year / 400 + 1 := by omega
    have hfirst : ((year + 1) % 400).toNat = 0 := by omega
    have hzero : yearStart 0 = 0 := rfl
    rw [hlast, yearStart_last] at hstep
    rw [hcycle, hfirst, hzero]
    unfold cycleDays at *
    omega
  · have hcycle : (year + 1) / 400 = year / 400 := by omega
    have hnext : ((year + 1) % 400).toNat = (year % 400).toNat + 1 := by omega
    rw [hcycle, hnext, hstep]
    omega

theorem yearDays_le {year later : Int} (h : year ≤ later) : yearDays year ≤ yearDays later := by
  have hstep (year : Int) : yearDays year ≤ yearDays (year + 1) := by
    rw [yearDays_succ]
    omega
  exact monotone_int_of_le_succ hstep h

theorem dayNumber_eq (d : Date) :
    dayNumber d = yearDays d.year + monthStart (isLeap d.year) d.month + (d.day - 1 : Nat) := rfl

theorem Place.Valid.number_eq {p : Place} (h : p.Valid) : p.number = yearDays p.date.year + p.dayInYear := by
  have hday : p.date.day - 1 = p.day := rfl
  have hmonth : p.date.month = p.month + 1 := rfl
  rw [← h.dayNumber_date, dayNumber_eq, leap_date, hday, hmonth, dayInYear]
  push_cast
  omega

/-- The days before a year are those whose numbers are below that of its first day. -/
theorem year_ofDayNumber_lt_iff {n year : Int} : (ofDayNumber n).year < year ↔ n < yearDays year := by
  obtain ⟨p, hp, rfl⟩ := exists_place_of_number n
  have hnumber := hp.number_eq
  have hlast : p.number < yearDays (p.date.year + 1) := by
    have hlt : p.dayInYear < monthStart p.leap 13 := hp.dayInYear_lt.trans_le (monotone_monthStart p.leap hp.month_lt)
    rw [monthStart_last] at hlt
    rw [yearDays_succ, p.leap_date]
    omega
  rw [hp.ofDayNumber_number]
  constructor
  · intro h
    exact hlast.trans_le (yearDays_le h)
  · intro h
    by_contra hle
    have hdays : yearDays year ≤ yearDays p.date.year := yearDays_le (Int.not_lt.1 hle)
    omega

/-! ### The day after -/

def Date.next (d : Date) : Date :=
  if d.day < monthLength (isLeap d.year) d.month then { d with day := d.day + 1 }
  else if d.month < 12 then { d with month := d.month + 1, day := 1 }
  else { year := d.year + 1, month := 1, day := 1 }

section Next

variable {d : Date} (h : d.Valid)
include h

theorem Date.Valid.next : d.next.Valid := by
  obtain ⟨hmonth, hmonth', hday, hday'⟩ := h
  unfold Date.next
  split
  · next hin => exact ⟨hmonth, hmonth', Nat.succ_pos _, hin⟩
  split
  · next hin => exact ⟨Nat.succ_pos _, hin, le_rfl, monthLength_pos _ _⟩
  · exact ⟨le_rfl, (by decide : 1 ≤ 12), le_rfl, monthLength_pos _ _⟩

theorem dayNumber_next : dayNumber d.next = dayNumber d + 1 := by
  obtain ⟨hmonth, hmonth', hday, hday'⟩ := h
  have hend := monthStart_succ (isLeap d.year) (d.month - 1)
  rw [Nat.sub_add_cancel hmonth] at hend
  rw [dayNumber_eq, dayNumber_eq]
  unfold Date.next
  split
  · dsimp only
    omega
  split
  · have hsucc : d.month - 1 + 2 = d.month + 1 := by omega
    rw [hsucc] at hend
    dsimp only
    omega
  · have hdecember : d.month - 1 + 2 = 13 := by omega
    have hjanuary : monthStart (isLeap (d.year + 1)) 1 = 0 := rfl
    rw [hdecember, monthStart_last] at hend
    dsimp only
    rw [yearDays_succ, hjanuary]
    omega

end Next

theorem ofDayNumber_zero : ofDayNumber 0 = { year := 0, month := 1, day := 1 } := by decide +kernel

/-- **Numbers count the days:** the day after has the next number. -/
theorem ofDayNumber_succ (n : Int) : ofDayNumber (n + 1) = (ofDayNumber n).next := by
  have hvalid := valid_ofDayNumber n
  calc ofDayNumber (n + 1) = ofDayNumber (dayNumber (ofDayNumber n).next) := by
        rw [dayNumber_next hvalid, dayNumber_ofDayNumber]
    _ = (ofDayNumber n).next := ofDayNumber_dayNumber hvalid.next

end BenchCompare.Calendar
