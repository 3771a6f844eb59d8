import BenchCompare.Decimal.Fixed
import BenchCompare.Timestamp.Calendar

/-!
# Times of the last update

* `Moment.ofText?`: reads a time in the form of RFC 3339. Any ASCII character may stand between date and time, and
  a second 60 is read as the last instant of the second before, where a month ends in UTC.
* `Timestamp.absolute`: a time as a minute in UTC. A text that is no time is shown as it is.
* `Timestamp.relative`: how long ago a time was, if that was within two days, else its minute.
-/

namespace BenchCompare

/-- A point of time: seconds since the first day of the year 0 in UTC, and nanoseconds below a second. -/
structure Moment where
  seconds : Int
  nanos : Nat
deriving DecidableEq, Repr

namespace Moment

def digitValue? (c : Char) : Option Nat := if c.isDigit then some (c.toNat - 0x30) else none

/-- A number of exactly `n` digits. -/
def number? (n : Nat) (l : List Char) : Option (Nat × List Char) :=
  go n 0 l
where
  /-- Puts digits onto `acc`. -/
  go : Nat → Nat → List Char → Option (Nat × List Char)
    | 0, acc, rest => some (acc, rest)
    | _ + 1, _, [] => none
    | n + 1, acc, c :: rest => (digitValue? c).bind fun d => go n (10 * acc + d) rest

/-- The characters after this one. -/
def after? (expected : Char) : List Char → Option (List Char)
  | [] => none
  | c :: rest => if c == expected then some rest else none

/-- The characters after the one between date and time. -/
def separator? : List Char → Option (List Char)
  | [] => none
  | c :: rest => if c.toNat < 0x80 then some rest else none

/-- The nanoseconds that digits after the point spell; digits past the ninth do not count. -/
def fraction (digits : List Nat) : Nat :=
  ((digits ++ List.replicate 9 0).take 9).foldl (fun n d => 10 * n + d) 0

/-- The nanoseconds after a point, if there is one. -/
def nanos? : List Char → Option (Nat × List Char)
  | '.' :: rest =>
    match rest.takeWhile Char.isDigit with
    | [] => none
    | ds => some (fraction (ds.map fun c => c.toNat - 0x30), rest.dropWhile Char.isDigit)
  | rest => some (0, rest)

/-- The seconds by which local time is ahead of UTC. -/
def offset? : List Char → Option (Int × List Char)
  | [] => none
  | c :: rest =>
    if c == 'Z' || c == 'z' then some (0, rest)
    else if c == '+' || c == '-' then do
      let (hours, rest) ← number? 2 rest
      let rest ← after? ':' rest
      let (minutes, rest) ← number? 2 rest
      if hours ≤ 23 && minutes ≤ 59 then
        let size : Int := hours * 3600 + minutes * 60
        some (if c == '-' then -size else size, rest)
      else none
    else none

def ofDateAndSeconds (date : Calendar.Date) (secondOfDay : Nat) (nanos : Nat) (offset : Int) : Moment :=
  { seconds := Calendar.dayNumber date * 86400 + secondOfDay - offset, nanos }

/-- The date of a moment in UTC. -/
def date (m : Moment) : Calendar.Date := Calendar.ofDayNumber (m.seconds / 86400)

/-- The second of the day in UTC. -/
def secondOfDay (m : Moment) : Nat := (m.seconds % 86400).toNat

/-- The years that can be shown. -/
def maxYear : Int := 9999

/-- The last second of a month in UTC. -/
def endsMonth (m : Moment) : Bool :=
  m.secondOfDay == 86399 && m.date.year ≤ maxYear
    && m.date.day == Calendar.monthLength (Calendar.isLeap m.date.year) m.date.month

/-- Reads the characters of a time. -/
def ofChars? (l : List Char) : Option Moment := do
  let (year, l) ← number? 4 l
  let l ← after? '-' l
  let (month, l) ← number? 2 l
  let l ← after? '-' l
  let (day, l) ← number? 2 l
  let date : Calendar.Date := { year, month, day }
  let l ← separator? l
  let (hour, l) ← number? 2 l
  let l ← after? ':' l
  let (minute, l) ← number? 2 l
  let l ← after? ':' l
  let (second, l) ← number? 2 l
  let (nanos, l) ← nanos? l
  let (offset, l) ← offset? l
  if l.isEmpty && date.Valid && hour ≤ 23 && minute ≤ 59 && second ≤ 60 then
    if second == 60 then
      let m := ofDateAndSeconds date (hour * 3600 + minute * 60 + 59) 999999999 offset
      if m.endsMonth then some m else none
    else some (ofDateAndSeconds date (hour * 3600 + minute * 60 + second) nanos offset)
  else none

def ofText? (s : String) : Option Moment := ofChars? s.toList

/-- The nanoseconds since the first day of the year 0. -/
def totalNanos (m : Moment) : Int := m.seconds * 1000000000 + m.nanos

/-- The whole seconds from one moment to another, toward zero. -/
def secondsUntil (m later : Moment) : Int := Int.tdiv (later.totalNanos - m.totalNanos) 1000000000

/-- A number with zeros in front up to a width. -/
def padded (width n : Nat) : String :=
  let text := Decimal.numeral n
  String.ofList (List.replicate (width - text.length) '0') ++ text

/-- The minute of a moment in UTC. -/
def minuteText (m : Moment) : String :=
  let d := m.date
  (if d.year < 0 then "-" else "") ++ padded 4 d.year.natAbs ++ "-" ++ padded 2 d.month ++ "-" ++ padded 2 d.day
    ++ " " ++ padded 2 (m.secondOfDay / 3600) ++ ":" ++ padded 2 (m.secondOfDay / 60 % 60) ++ "Z"

end Moment

namespace Timestamp

/-- A time in a year that cannot be shown. -/
inductive RangeError where
  | yearTooLate
deriving DecidableEq, Repr

/-- The minute of a time in UTC. -/
def absolute (ts : String) : Except RangeError String :=
  match Moment.ofText? ts with
  | none => .ok ts
  | some m => if m.date.year ≤ Moment.maxYear then .ok m.minuteText else .error .yearTooLate

/-- How long ago a moment was, within two days. -/
def age? (m now : Moment) : Option String :=
  let secs := m.secondsUntil now
  if secs < 0 then none
  else if secs < 60 then some "updated just now"
  else if secs < 3600 then some ("updated " ++ Decimal.numeral (secs / 60).toNat ++ "m ago")
  else if secs < 172800 then some ("updated " ++ Decimal.numeral (secs / 3600).toNat ++ "h ago")
  else none

/-- How long ago a time was, or else its minute. -/
def relative (ts : String) (now : Moment) : Except RangeError String :=
  match (Moment.ofText? ts).bind fun m => age? m now with
  | some s => .ok s
  | none => absolute ts

end Timestamp

end BenchCompare
