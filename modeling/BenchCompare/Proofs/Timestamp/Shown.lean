import BenchCompare.Proofs.Timestamp.Reading

/-!
# Showing times

* `Minute`: a minute of a day in a year of four digits. `Minute.digitForm_text`: its text has the form of one.
  `Minute.ofText?_text`: with seconds behind it, this text is read as the start of the minute.
* `Moment.minute`: the minute that a moment lies in. `Moment.minuteText_eq`: it is what is shown.
  `Moment.start_minute`, `Moment.totalNanos_start_minute`: it starts at the last whole minute.
* `exists_absolute_iff`, `exists_relative_iff`: the times that are shown.

Main statements: `absolute_denotes_minute`, `shown_iff`.
-/

namespace BenchCompare

/-! ### Forms -/

/-- A text with zeros for its digits. -/
def digitForm (s : String) : String := String.ofList (s.toList.map fun c => if c.isDigit then '0' else c)

theorem digitForm_append (s t : String) : digitForm (s ++ t) = digitForm s ++ digitForm t := by
  rw [digitForm, String.toList_append, List.map_append, String.ofList_append]
  rfl

theorem digitForm_padded {width n : Nat} (hw : 0 < width) (hn : n < 10 ^ width) :
    digitForm (Moment.padded width n) = String.ofList (List.replicate width '0') := by
  have hzeros : (Moment.padded width n).toList.map (fun c => if c.isDigit then '0' else c) =
      List.replicate width '0' := by
    rw [List.eq_replicate_iff, List.length_map, Moment.length_padded hw hn]
    refine ⟨rfl, fun c hc => ?_⟩
    obtain ⟨c, hmem, rfl⟩ := List.mem_map.1 hc
    exact if_pos (Moment.isDigit_of_mem_padded hmem)
  rw [digitForm, hzeros]

/-! ### Minutes -/

/-- A minute of a day in a year that can be written. -/
structure Minute where
  year : Nat
  month : Nat
  day : Nat
  hour : Nat
  minute : Nat
  year_le : year ≤ 9999
  valid : ({ year, month, day } : Calendar.Date).Valid
  hour_le : hour ≤ 23
  minute_le : minute ≤ 59

namespace Minute

open Moment

/-- Date and minute, as they are written before the seconds. -/
def text (t : Minute) : String :=
  padded 4 t.year ++ "-" ++ padded 2 t.month ++ "-" ++ padded 2 t.day ++ " " ++ padded 2 t.hour ++ ":" ++ padded 2 t.minute

def start (t : Minute) : Moment :=
  ofDateAndSeconds { year := t.year, month := t.month, day := t.day } (t.hour * 3600 + t.minute * 60) 0 0

theorem digitForm_text (t : Minute) : digitForm t.text = "0000-00-00 00:00" := by
  have hyear := t.year_le
  have hmonth := t.valid.2.1
  have hday := t.valid.2.2.2.trans (Calendar.monthLength_le _ _)
  have hhour := t.hour_le
  have hminute := t.minute_le
  dsimp only at hmonth hday
  simp only [text, digitForm_append]
  rw [digitForm_padded (by decide) (by omega : t.year < 10 ^ 4),
    digitForm_padded (by decide) (by omega : t.month < 10 ^ 2), digitForm_padded (by decide) (by omega : t.day < 10 ^ 2),
    digitForm_padded (by decide) (by omega : t.hour < 10 ^ 2),
    digitForm_padded (by decide) (by omega : t.minute < 10 ^ 2)]
  decide

/-- **A minute is read back from its text.** -/
theorem ofText?_text (t : Minute) : ofText? (t.text ++ ":00Z") = some t.start := by
  have hseconds : (":00Z" : String).toList = ':' :: ((padded 2 0).toList ++ ['Z']) := by decide
  have htext : (t.text ++ ":00Z").toList = (padded 4 t.year).toList ++ '-' :: ((padded 2 t.month).toList ++ '-' ::
      ((padded 2 t.day).toList ++ ' ' :: ((padded 2 t.hour).toList ++ ':' :: ((padded 2 t.minute).toList ++ ':' ::
        ((padded 2 0).toList ++ ['Z']))))) := by
    have hdash : ("-" : String).toList = ['-'] := rfl
    have hspace : (" " : String).toList = [' '] := rfl
    have hcolon : (":" : String).toList = [':'] := rfl
    simp only [text, String.toList_append, hdash, hspace, hcolon, hseconds, List.append_assoc, List.cons_append,
      List.nil_append]
  rw [ofText?, htext, ofChars?_written t.year_le t.valid t.hour_le t.minute_le (Nat.zero_le 59), start, Nat.add_zero]

end Minute

namespace Moment

theorem secondOfDay_lt (m : Moment) : m.secondOfDay < 86400 := by
  unfold secondOfDay
  omega

section Minute

variable (m : Moment) (hfirst : 0 ≤ m.date.year) (hlast : m.date.year ≤ 9999)

def minute : Minute where
  year := m.date.year.natAbs
  month := m.date.month
  day := m.date.day
  hour := m.secondOfDay / 3600
  minute := m.secondOfDay / 60 % 60
  year_le := by omega
  valid := by
    rw [Int.natAbs_of_nonneg hfirst]
    exact Calendar.valid_ofDayNumber _
  hour_le := by
    have hlt := m.secondOfDay_lt
    omega
  minute_le := by omega

theorem minuteText_eq : m.minuteText = (m.minute hfirst hlast).text ++ "Z" := by
  rw [minuteText, if_neg (Int.not_lt.2 hfirst), String.empty_append]
  rfl

theorem start_minute : (m.minute hfirst hlast).start = { seconds := m.seconds / 60 * 60, nanos := 0 } := by
  have hday : Calendar.dayNumber m.date = m.seconds / 86400 := Calendar.dayNumber_ofDayNumber _
  have hyear := Int.natAbs_of_nonneg hfirst
  have hsecond : (m.secondOfDay : Int) = m.seconds % 86400 := by
    unfold secondOfDay
    omega
  unfold minute Minute.start ofDateAndSeconds
  dsimp only
  rw [hyear]
  congr 1
  show Calendar.dayNumber m.date * 86400 + _ - 0 = _
  omega

theorem totalNanos_start_minute (hnanos : m.nanos < 1000000000) :
    (m.minute hfirst hlast).start.totalNanos ≤ m.totalNanos ∧
      m.totalNanos < (m.minute hfirst hlast).start.totalNanos + 60 * 1000000000 := by
  rw [start_minute, totalNanos, totalNanos]
  dsimp only
  omega

end Minute

end Moment

namespace Timestamp

theorem absolute_of_none {ts : String} (h : Moment.ofText? ts = none) : absolute ts = .ok ts := by
  rw [absolute, h]

theorem absolute_of_some {ts : String} {m : Moment} (h : Moment.ofText? ts = some m) :
    absolute ts = if m.date.year ≤ 9999 then .ok m.minuteText else .error .yearTooLate := by
  rw [absolute, h]
  rfl

/-- **A time is shown as its minute:** the text has the form of one, and with seconds it is read as the time rounded
down. -/
theorem absolute_denotes_minute {ts : String} {m : Moment} (h : Moment.ofText? ts = some m) (hfirst : 0 ≤ m.date.year)
    (hlast : m.date.year ≤ 9999) :
    ∃ t : Minute, absolute ts = .ok (t.text ++ "Z") ∧ digitForm (t.text ++ "Z") = "0000-00-00 00:00Z" ∧
      ∃ r : Moment, Moment.ofText? (t.text ++ ":00Z") = some r ∧ r.seconds % 60 = 0 ∧ r.nanos = 0 ∧
        r.totalNanos ≤ m.totalNanos ∧ m.totalNanos < r.totalNanos + 60 * 1000000000 := by
  have hstart := m.start_minute hfirst hlast
  have hround := m.totalNanos_start_minute hfirst hlast (Moment.nanos_lt_of_ofText? h)
  refine ⟨m.minute hfirst hlast, ?_, ?_, (m.minute hfirst hlast).start, Minute.ofText?_text _, ?_, ?_, hround⟩
  · rw [absolute_of_some h, if_pos hlast, m.minuteText_eq hfirst hlast]
  · rw [digitForm_append, Minute.digitForm_text]
    decide
  · rw [hstart]
    exact Int.mul_emod_left _ _
  · rw [hstart]

/-- The end of a year that has a second more, in a place where the next year has begun. -/
theorem absolute_denotes_minute_leap :
    Moment.ofText? "2017-01-01T00:59:60+01:00" = some { seconds := 63650447999, nanos := 999999999 } ∧
      absolute "2017-01-01T00:59:60+01:00" = .ok "2016-12-31 23:59Z" ∧
      ∃ t : Minute, absolute "2017-01-01T00:59:60+01:00" = .ok (t.text ++ "Z") ∧
        ∃ r : Moment, Moment.ofText? (t.text ++ ":00Z") = some r ∧ r.totalNanos ≤ 63650447999999999999 ∧
          63650447999999999999 < r.totalNanos + 60 * 1000000000 := by
  have hread : Moment.ofText? "2017-01-01T00:59:60+01:00" = some { seconds := 63650447999, nanos := 999999999 } := by
    decide +kernel
  obtain ⟨t, htext, -, r, hr, -, -, hle, hlt⟩ := absolute_denotes_minute hread (by decide +kernel) (by decide +kernel)
  exact ⟨hread, by decide +kernel, t, htext, r, hr, hle, hlt⟩

/-! ### What is shown at all -/

theorem age?_eq_none_iff {m now : Moment} :
    age? m now = none ↔ m.secondsUntil now < 0 ∨ 172800 ≤ m.secondsUntil now := by
  unfold age?
  dsimp only
  split_ifs <;> simp <;> omega

theorem relative_of_none {ts : String} (h : Moment.ofText? ts = none) (now : Moment) : relative ts now = .ok ts := by
  rw [relative, h]
  exact absolute_of_none h

/-- A time is shown by how long ago it was, or else as its minute. -/
theorem exists_relative_iff {ts : String} {m now : Moment} (h : Moment.ofText? ts = some m) :
    (∃ text, relative ts now = .ok text) ↔
      (∃ text, absolute ts = .ok text) ∨ 0 ≤ m.secondsUntil now ∧ m.secondsUntil now < 172800 := by
  have hage := @age?_eq_none_iff m now
  rw [relative, h, Option.bind_some]
  cases hsome : age? m now with
  | some s =>
    have hwithin : 0 ≤ m.secondsUntil now ∧ m.secondsUntil now < 172800 := by
      rw [hsome] at hage
      simp only [reduceCtorEq, false_iff] at hage
      omega
    exact ⟨fun _ => .inr hwithin, fun _ => ⟨s, rfl⟩⟩
  | none =>
    have hout := hage.1 hsome
    exact ⟨.inl, fun hshown => hshown.resolve_right (by omega)⟩

theorem exists_absolute_iff {ts : String} {m : Moment} (h : Moment.ofText? ts = some m) :
    (∃ text, absolute ts = .ok text) ↔ m.date.year ≠ 10000 := by
  have hlast := (Moment.year_of_ofText? h).2
  rw [absolute_of_some h]
  split
  · exact ⟨fun _ => by omega, fun _ => ⟨_, rfl⟩⟩
  · refine ⟨fun ⟨text, htext⟩ => ?_, fun hyear => ?_⟩
    · cases htext
    · omega

/-- **What is shown of every text:** a text that is no time as it is, and a time unless it lies, in UTC, in the year
after the last that can be written. How long ago such a time was is still said. -/
theorem shown_iff (ts : String) (now : Moment) :
    (Moment.ofText? ts = none → absolute ts = .ok ts ∧ relative ts now = .ok ts) ∧
      ∀ m, Moment.ofText? ts = some m →
        (-1 ≤ m.date.year ∧ m.date.year ≤ 10000) ∧
          ((∃ text, absolute ts = .ok text) ↔ m.date.year ≠ 10000) ∧
          ((∃ text, relative ts now = .ok text) ↔
            m.date.year ≠ 10000 ∨ 0 ≤ m.secondsUntil now ∧ m.secondsUntil now < 172800) := by
  refine ⟨fun h => ⟨absolute_of_none h, relative_of_none h now⟩, fun m h => ⟨Moment.year_of_ofText? h, ?_, ?_⟩⟩
  · exact exists_absolute_iff h
  · rw [exists_relative_iff h, exists_absolute_iff h]

/-- The last second of the last year that can be written, in a place an hour behind: nothing is shown of it. -/
theorem not_shown_last_second :
    let ts := "9999-12-31T23:59:59-01:00"
    let now := Moment.ofDateAndSeconds { year := 2026, month := 1, day := 25 } 43200 0 0
    absolute ts = .error .yearTooLate ∧ relative ts now = .error .yearTooLate ∧
      ¬ ∀ ts, ∃ text, absolute ts = .ok text := by
  have herror : absolute "9999-12-31T23:59:59-01:00" = .error .yearTooLate := by decide +kernel
  refine ⟨herror, by decide +kernel, fun hall => ?_⟩
  obtain ⟨text, htext⟩ := hall "9999-12-31T23:59:59-01:00"
  rw [herror] at htext
  cases htext

end Timestamp

end BenchCompare
