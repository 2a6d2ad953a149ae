import Almanac.Calendar.Date

/-!
# Day numbers

Every day of the proleptic Gregorian calendar has a day number: the number of days since
November 24 of the year -4713, the start of the Julian period. January 1 of the year 1 is day
1721426. Counting in day numbers turns date arithmetic into integer arithmetic: `addDays?`
moves a date by any number of days, across months and years, and the weekday of a date is its
day number modulo 7, Monday being 0.

`Ymd.dayNumber` counts from March of a shifted year, so that the leap day falls at the end of
the counting year; `Ymd.ofDayNumber` inverts it through the 400-year, 100-year, 4-year and
153-day cycles of the calendar. All divisors are positive, so the integer quotients and
remainders below round towards minus infinity.
-/

namespace Almanac

namespace Ymd

/-- The day number of a year, month and day. -/
def dayNumber (t : Ymd) : Int :=
  let a := (14 - t.month) / 12
  let y := t.year + 4800 - a
  let m := t.month + 12 * a - 3
  t.day + (153 * m + 2) / 5 + 365 * y + y / 4 - y / 100 + y / 400 - 32045

/-- The year, month and day of a day number. -/
def ofDayNumber (n : Int) : Ymd :=
  let a := n + 32044
  let b := (4 * a + 3) / 146097
  let c := a - 146097 * b / 4
  let d := (4 * c + 3) / 1461
  let e := c - 1461 * d / 4
  let m := (5 * e + 2) / 153
  { year := 100 * b + d - 4800 + m / 10
    month := m + 3 - 12 * (m / 10)
    day := e - (153 * m + 2) / 5 + 1 }

end Ymd

namespace Date

/-- The day number of a date. -/
def dayNumber (d : Date) : Int := d.toYmd.dayNumber

/-- The date of a day number, or why its year, month and day make no date. -/
def ofDayNumber? (n : Int) : Except DateFault Date :=
  let t := Ymd.ofDayNumber n
  make? t.year t.month t.day

/-- The date `n` days after a date (before it when `n` is negative). -/
def addDays? (d : Date) (n : Int) : Except DateFault Date := ofDayNumber? (d.dayNumber + n)

/-- The weekday of a date: 0 for Monday to 6 for Sunday. -/
def weekday (d : Date) : Int := d.dayNumber % 7

/-- The position of a date in its year, January 1 being 1. -/
def dayOfYear (d : Date) : Int := d.dayNumber - Ymd.dayNumber ⟨d.year, 1, 1⟩ + 1

end Date

example : Ymd.dayNumber ⟨1, 1, 1⟩ = 1721426 ∧ Ymd.dayNumber ⟨2000, 1, 1⟩ = 2451545 := by decide

example : Ymd.ofDayNumber 2451545 = ⟨2000, 1, 1⟩ ∧ Ymd.ofDayNumber 0 = ⟨-4713, 11, 24⟩ := by decide

end Almanac
