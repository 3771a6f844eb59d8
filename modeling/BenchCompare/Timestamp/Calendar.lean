/-!
# The calendar

The proleptic Gregorian calendar, with days counted from the first day of the year 0.

* `Calendar.dayNumber`: the number of a date.
* `Calendar.ofDayNumber`: the date of a number. Years repeat every 400 years; in such a cycle the year of a day is
  the last one that starts by then, and its month likewise.
-/

namespace BenchCompare.Calendar

/-- A year, a month from 1 to 12 and a day from 1. -/
structure Date where
  year : Int
  month : Nat
  day : Nat
deriving DecidableEq, Repr

def isLeap (year : Int) : Bool := (year % 4 == 0 && year % 100 != 0) || year % 400 == 0

/-- The days of a month. -/
def monthLength (leap : Bool) : Nat → Nat
  | 2 => if leap then 29 else 28
  | 4 | 6 | 9 | 11 => 30
  | _ => 31

/-- The days of a year before a month. -/
def monthStart (leap : Bool) (month : Nat) : Nat :=
  (List.range (month - 1)).foldr (fun m days => monthLength leap (m + 1) + days) 0

def cycleDays : Nat := 146097

/-- The days of a cycle of 400 years before one of its years. -/
def yearStart (year : Nat) : Nat := 365 * year + (year + 3) / 4 - (year + 99) / 100 + (year + 399) / 400

/-- The date is one of the calendar. -/
def Date.Valid (d : Date) : Prop := 1 ≤ d.month ∧ d.month ≤ 12 ∧ 1 ≤ d.day ∧ d.day ≤ monthLength (isLeap d.year) d.month

instance (d : Date) : Decidable d.Valid := by unfold Date.Valid; infer_instance

/-- The number of a date. -/
def dayNumber (d : Date) : Int :=
  d.year / 400 * cycleDays + yearStart (d.year % 400).toNat + monthStart (isLeap d.year) d.month + (d.day - 1 : Nat)

/-- The greatest number below `n` whose start is not after `x`, zero if there is none. -/
def lastStart (start : Nat → Nat) (x : Nat) : Nat → Nat
  | 0 => 0
  | n + 1 => if start n ≤ x then n else lastStart start x n

/-- The date of a number. -/
def ofDayNumber (n : Int) : Date :=
  let inCycle := (n % cycleDays).toNat
  let y := lastStart yearStart inCycle 400
  let year := n / cycleDays * 400 + y
  let inYear := inCycle - yearStart y
  let m := lastStart (fun m => monthStart (isLeap year) (m + 1)) inYear 12
  { year, month := m + 1, day := inYear - monthStart (isLeap year) (m + 1) + 1 }

end BenchCompare.Calendar
