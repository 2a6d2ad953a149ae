import Mathlib
import Almanac.Proofs.Calendar.Supported

/-!
# Day numbers count days

`Ymd.dayNumber` and `Ymd.ofDayNumber` are inverse to each other between the integers and the
valid days of the proleptic Gregorian calendar, in every year: every integer is the day number
of exactly one valid day (`dayNumber_ofDayNumber`, `ofDayNumber_dayNumber`). The day numbers
of consecutive days are consecutive (`dayNumber_next`), starting from 1721426 on January 1 of
the year 1, so the day number of a day is its ordinal, the count of days from that January 1
on, shifted by 1721425 (`dayNumber_eq_ordinal`).

Moving a date by `n` days therefore lands on the date whose ordinal is `n` more, whenever there
is one, and otherwise fails only because the year is off the calendar (`Date.addDays?_ok_iff`);
the weekday of a date is its ordinal shifted by six, modulo 7, January 1 of the year 1 being a
Monday (`Date.weekday_eq_ordinal`).

The inverse is proved on the cycles of the calendar: a day number is the day of a year that
starts on March 1, the year in its century and the century, and `ofDayNumber_cycles` computes
`ofDayNumber` on that decomposition.
-/

namespace Almanac

namespace Ymd

/-- The day after a day: the next day of its month, else the first of the next month, else
January 1 of the next year. -/
def next (t : Ymd) : Ymd :=
  if t.day < monthLength t.year t.month then ⟨t.year, t.month, t.day + 1⟩
  else if t.month < 12 then ⟨t.year, t.month + 1, 1⟩
  else ⟨t.year + 1, 1, 1⟩

end Ymd

/-- The days of the years from the year 1 up to year `y`, not included: 365 in each, and one
more in each leap year. -/
def daysBeforeYear (y : Int) : Int :=
  365 * (y - 1) + (y - 1) / 4 - (y - 1) / 100 + (y - 1) / 400

/-- The days of the months before month `m` of year `y`. -/
def daysBeforeMonth (y m : Int) : Int :=
  ((List.range (m.toNat - 1)).map fun k => monthLength y (k + 1)).sum

/-- The proleptic Gregorian ordinal of a day: January 1 of the year 1 is day 1, and every day
counts one more than the day before it. -/
def Ymd.ordinal (t : Ymd) : Int := daysBeforeYear t.year + daysBeforeMonth t.year t.month + t.day

/-- A year adds its length to the days before it. -/
theorem daysBeforeYear_succ (y : Int) :
    daysBeforeYear (y + 1) = daysBeforeYear y + (if isLeapYear y then 366 else 365) := by
  simp only [daysBeforeYear, isLeapYear, Bool.and_eq_true, beq_iff_eq, Bool.or_eq_true,
    bne_iff_ne]
  split_ifs <;> omega

example :
    daysBeforeYear 1 = 0 ∧ Ymd.ordinal ⟨1, 1, 1⟩ = 1 ∧ Ymd.ordinal ⟨2000, 3, 1⟩ = 730180 := by
  decide

namespace Ymd

/-! ## From day numbers to days and back -/

/-- The year, month and day of a day number, computed on its decomposition into a century `B`,
a year `s` of that century and a day `D` of a year that starts on March 1; a 366th day `D = 365`
occurs only in a year before a leap year. -/
theorem ofDayNumber_cycles {B s D : Int} (hs : 0 ≤ s ∧ s ≤ 99) (hD : 0 ≤ D ∧ D ≤ 365)
    (hleap : D = 365 → s % 4 = 3 ∧ (s = 99 → B % 4 = 3)) :
    ofDayNumber (36524 * B + B / 4 + 365 * s + s / 4 + D - 32044) =
      ⟨100 * B + s - 4800 + (5 * D + 2) / 153 / 10,
        (5 * D + 2) / 153 + 3 - 12 * ((5 * D + 2) / 153 / 10),
        D - (153 * ((5 * D + 2) / 153) + 2) / 5 + 1⟩ := by
  simp only [ofDayNumber]
  have hn : 36524 * B + B / 4 + 365 * s + s / 4 + D - 32044 + 32044 =
      36524 * B + B / 4 + (365 * s + s / 4 + D) := by omega
  rw [hn]
  -- the century comes first: a century has 36524 days, and one more every fourth
  have hb : (4 * (36524 * B + B / 4 + (365 * s + s / 4 + D)) + 3) / 146097 = B := by omega
  have hq : 146097 * B / 4 = 36524 * B + B / 4 := by omega
  have hc : 36524 * B + B / 4 + (365 * s + s / 4 + D) - (36524 * B + B / 4) =
      365 * s + s / 4 + D := by omega
  rw [hb, hq, hc]
  -- then the year of the century: 365 days, and one more every fourth
  have hd : (4 * (365 * s + s / 4 + D) + 3) / 1461 = s := by omega
  have hr : 1461 * s / 4 = 365 * s + s / 4 := by omega
  have he : 365 * s + s / 4 + D - (365 * s + s / 4) = D := by omega
  rw [hd, hr, he]

/-- The day number of a day on the same decomposition: the year counted from March 1 of the
year -4800 is split into its century and its year in the century. -/
theorem dayNumber_cycles (t : Ymd) :
    let a := (14 - t.month) / 12
    let Y := t.year + 4800 - a
    let D := t.day - 1 + (153 * (t.month + 12 * a - 3) + 2) / 5
    t.dayNumber = 36524 * (Y / 100) + Y / 100 / 4 + 365 * (Y % 100) + Y % 100 / 4 + D - 32044 := by
  simp only [dayNumber]
  omega

/-- A valid day as a day of a year that starts on March 1: its month is the one the day falls
in, and the 366th day is February 29 of a leap year. -/
theorem valid_march {t : Ymd} (h : t.Valid) :
    let M := t.month + 12 * ((14 - t.month) / 12) - 3
    let D := t.day - 1 + (153 * M + 2) / 5
    (5 * D + 2) / 153 = M ∧ 0 ≤ D ∧ (D ≤ 364 ∨ (D = 365 ∧ t.year % 4 = 0 ∧
      (t.year % 100 ≠ 0 ∨ t.year % 400 = 0))) := by
  obtain ⟨y, m, d⟩ := t
  obtain ⟨hm1, hm2, hd1, hd2⟩ := h
  dsimp only at *
  interval_cases m <;> simp only [monthLength, isLeapYear, Bool.and_eq_true, beq_iff_eq, bne_iff_ne,
      Bool.or_eq_true] at hd2 <;> norm_num at hd2 ⊢ <;>
    (try split_ifs at hd2) <;> omega

/-- Every integer is the day number of the day `ofDayNumber` gives. -/
theorem dayNumber_ofDayNumber (n : Int) : (ofDayNumber n).dayNumber = n := by
  simp only [ofDayNumber, dayNumber]
  generalize hb : (4 * (n + 32044) + 3) / 146097 = b
  have hq : 146097 * b / 4 = 36524 * b + b / 4 := by omega
  rw [hq]
  have hc : 0 ≤ n + 32044 - (36524 * b + b / 4) ∧
      n + 32044 - (36524 * b + b / 4) ≤ 36524 := by
    omega
  generalize hc' : n + 32044 - (36524 * b + b / 4) = c at *
  generalize hd : (4 * c + 3) / 1461 = d
  have hdr : 0 ≤ d ∧ d ≤ 99 := by omega
  have h1461 : 1461 * d / 4 = 365 * d + d / 4 := by omega
  rw [h1461]
  have he : 0 ≤ c - (365 * d + d / 4) ∧ c - (365 * d + d / 4) ≤ 365 := by omega
  generalize he' : c - (365 * d + d / 4) = e at *
  generalize hm : (5 * e + 2) / 153 = m
  have hmr : 0 ≤ m ∧ m ≤ 11 := by omega
  have ha : (14 - (m + 3 - 12 * (m / 10))) / 12 = m / 10 := by omega
  have hm' : m + 3 - 12 * (m / 10) + 12 * (m / 10) - 3 = m := by omega
  rw [ha, hm']
  have hy : 100 * b + d - 4800 + m / 10 + 4800 - m / 10 = 100 * b + d := by omega
  rw [hy]
  have h4 : (100 * b + d) / 4 = 25 * b + d / 4 := by omega
  have h100 : (100 * b + d) / 100 = b := by omega
  have h400 : (100 * b + d) / 400 = b / 4 := by omega
  rw [h4, h100, h400]
  omega

/-- A valid day is the day of its day number. -/
theorem ofDayNumber_dayNumber {t : Ymd} (h : t.Valid) : ofDayNumber t.dayNumber = t := by
  obtain ⟨hDM, hD0, hD365⟩ := valid_march h
  have hm : 1 ≤ t.month ∧ t.month ≤ 12 := ⟨h.1, h.2.1⟩
  rw [dayNumber_cycles, ofDayNumber_cycles (by omega) (by omega) (by omega), hDM]
  obtain ⟨y, m, d⟩ := t
  dsimp only at *
  congr 1 <;> omega

/-- Two valid days with one day number are the same day. -/
theorem dayNumber_injective {t u : Ymd} (ht : t.Valid) (hu : u.Valid)
    (h : t.dayNumber = u.dayNumber) : t = u := by
  rw [← ofDayNumber_dayNumber ht, ← ofDayNumber_dayNumber hu, h]

/-! ## Counting days -/

/-- Within a month, day numbers count the days from the first. -/
theorem dayNumber_day (y m d : Int) :
    dayNumber ⟨y, m, d⟩ = dayNumber ⟨y, m, 1⟩ + (d - 1) := by
  simp only [dayNumber]
  omega

/-- The first of the next month comes a month's length after the first of this one. -/
theorem dayNumber_succ_month (y : Int) {m : Int} (hm : 1 ≤ m ∧ m ≤ 11) :
    dayNumber ⟨y, m + 1, 1⟩ = dayNumber ⟨y, m, 1⟩ + monthLength y m := by
  obtain ⟨hm1, hm2⟩ := hm
  simp only [dayNumber]
  -- March to December lie in one year counted from March; February ends that year, with the
  -- leap day of the calendar year that follows it
  interval_cases m <;>
    simp only [monthLength, isLeapYear, Bool.and_eq_true, beq_iff_eq, bne_iff_ne,
      Bool.or_eq_true] <;>
    norm_num <;>
    (try split_ifs) <;> omega

/-- January 1 comes 31 days after December 1. -/
theorem dayNumber_succ_year (y : Int) :
    dayNumber ⟨y + 1, 1, 1⟩ = dayNumber ⟨y, 12, 1⟩ + 31 := by
  simp only [dayNumber]
  omega

/-- The day after a valid day is valid. -/
theorem next_valid {t : Ymd} (h : t.Valid) : t.next.Valid := by
  obtain ⟨y, m, d⟩ := t
  obtain ⟨hm1, hm2, hd1, hd2⟩ := h
  dsimp only at *
  unfold next
  dsimp only
  split_ifs with hday hmonth
  · refine ⟨hm1, hm2, ?_, ?_⟩ <;> dsimp only <;> omega
  · have hlen := monthLength_bounds y (m + 1) ⟨by omega, by omega⟩
    refine ⟨?_, ?_, le_refl 1, ?_⟩ <;> dsimp only <;> omega
  · have hlen := monthLength_bounds (y + 1) 1 ⟨le_refl 1, by norm_num⟩
    refine ⟨le_refl 1, by norm_num, le_refl 1, ?_⟩
    dsimp only
    omega

/-- The day after a valid day has the next day number. -/
theorem dayNumber_next {t : Ymd} (h : t.Valid) : t.next.dayNumber = t.dayNumber + 1 := by
  obtain ⟨y, m, d⟩ := t
  obtain ⟨hm1, hm2, hd1, hd2⟩ := h
  dsimp only at *
  unfold next
  dsimp only
  split_ifs with hday hmonth
  · rw [dayNumber_day y m (d + 1), dayNumber_day y m d]
    ring
  · rw [dayNumber_succ_month y ⟨hm1, by omega⟩, dayNumber_day y m d]
    omega
  · have hm : m = 12 := by omega
    subst hm
    have hlen : monthLength y 12 = 31 := by simp [monthLength]
    rw [dayNumber_succ_year, dayNumber_day y 12 d]
    omega

/-- A month adds its length to the days before it. -/
theorem daysBeforeMonth_succ (y : Int) {m : Int} (hm : 1 ≤ m) :
    daysBeforeMonth y (m + 1) = daysBeforeMonth y m + monthLength y m := by
  have hn : (m + 1).toNat - 1 = (m.toNat - 1) + 1 := by omega
  have hk : ((m.toNat - 1 : Nat) : Int) + 1 = m := by omega
  rw [daysBeforeMonth, daysBeforeMonth, hn, List.range_succ]
  simp [hk]

/-- The first of a month has the day number of its ordinal shifted by 1721425. -/
theorem dayNumber_first_eq_ordinal (y : Int) {m : Int} (hm : 1 ≤ m ∧ m ≤ 12) :
    dayNumber ⟨y, m, 1⟩ = ordinal ⟨y, m, 1⟩ + 1721425 := by
  obtain ⟨hm1, hm12⟩ := hm
  -- by induction on the month: January starts the year, and each later month follows the last
  induction m, hm1 using Int.leInduction with
  | base =>
    simp only [dayNumber, ordinal, daysBeforeYear, daysBeforeMonth]
    simp
    omega
  | succ n hn ih =>
    have hstep := dayNumber_succ_month y ⟨hn, by omega⟩
    simp only [ordinal] at ih ⊢
    rw [hstep, ih (by omega), daysBeforeMonth_succ y hn]
    ring

/-- The day number of a valid day is its ordinal shifted by 1721425. -/
theorem dayNumber_eq_ordinal {t : Ymd} (h : t.Valid) : t.dayNumber = t.ordinal + 1721425 := by
  obtain ⟨y, m, d⟩ := t
  obtain ⟨hm1, hm2, -, -⟩ := h
  rw [dayNumber_day, dayNumber_first_eq_ordinal y ⟨hm1, hm2⟩]
  simp only [ordinal]
  ring

end Ymd

/-! ## Dates -/

namespace Date

/-- A date is the date of its year, month and day. -/
theorem eq_of_toYmd {d e : Date} (h : d.toYmd = e.toYmd) : d = e := by
  cases d
  cases e
  cases h
  rfl

/-- The day number of a date is its ordinal shifted by 1721425. -/
theorem dayNumber_eq_ordinal (d : Date) : d.dayNumber = d.toYmd.ordinal + 1721425 :=
  Ymd.dayNumber_eq_ordinal d.valid

/-- A date made of three numbers has them as its year, month and day. -/
theorem make?_toYmd {y m d : Int} {e : Date} (h : make? y m d = .ok e) :
    e.toYmd = ⟨y, m, d⟩ := by
  unfold make? at h
  split at h
  · cases h
  · cases h
  · cases h
  · unfold ofYmdChecked at h
    split at h
    · split at h
      · cases h
        rfl
      · split at h <;> cases h
    · cases h

/-- A date moved by `n` days is the date whose ordinal is `n` more. -/
theorem addDays?_ok_iff {d e : Date} {n : Int} :
    d.addDays? n = .ok e ↔ e.toYmd.ordinal = d.toYmd.ordinal + n := by
  constructor
  · intro h
    have hymd : e.toYmd = Ymd.ofDayNumber (d.dayNumber + n) := make?_toYmd h
    have hdn : e.dayNumber = d.dayNumber + n := by
      rw [dayNumber, hymd, Ymd.dayNumber_ofDayNumber]
    rw [dayNumber_eq_ordinal, dayNumber_eq_ordinal] at hdn
    omega
  · intro h
    have hdn : e.dayNumber = d.dayNumber + n := by
      rw [dayNumber_eq_ordinal, dayNumber_eq_ordinal, h]
      ring
    have ht : Ymd.ofDayNumber (d.dayNumber + n) = e.toYmd := by
      rw [← hdn]
      exact Ymd.ofDayNumber_dayNumber e.valid
    simp only [addDays?, ofDayNumber?, ht]
    exact make?_of_valid e.year_mem e.valid

/-- The weekday of a date is its ordinal shifted by six, modulo 7: January 1 of the year 1 was
a Monday. -/
theorem weekday_eq_ordinal (d : Date) : d.weekday = (d.toYmd.ordinal + 6) % 7 := by
  rw [weekday, dayNumber_eq_ordinal]
  omega

end Date

/-- Day numbers and days are inverse to each other, in every year: every integer is the day
number of a valid day, and every valid day is the day of its day number. Day numbers count days
from 1721426 on January 1 of the year 1, so they are ordinals shifted by 1721425. Hence moving a
date by `n` days gives the date `n` days later whenever the calendar has it and otherwise fails
only with a year off the calendar, and the weekday of a date is the one its ordinal gives. -/
theorem dayNumber_counts_days :
    (∀ n : Int, (Ymd.ofDayNumber n).Valid ∧ (Ymd.ofDayNumber n).dayNumber = n) ∧
    (∀ t : Ymd, t.Valid → Ymd.ofDayNumber t.dayNumber = t) ∧
    (∀ t : Ymd, t.Valid → t.next.Valid ∧ t.next.dayNumber = t.dayNumber + 1) ∧
    Ymd.dayNumber ⟨1, 1, 1⟩ = 1721426 ∧
    (∀ d : Date, d.dayNumber = d.toYmd.ordinal + 1721425) ∧
    (∀ (d e : Date) (n : Int), d.addDays? n = .ok e ↔ e.toYmd.ordinal = d.toYmd.ordinal + n) ∧
    (∀ (d : Date) (n : Int) (f : DateFault), d.addDays? n = .error f → f.OffCalendar) ∧
    (∀ d : Date, d.weekday = (d.toYmd.ordinal + 6) % 7) :=
  ⟨fun n => ⟨Ymd.ofDayNumber_valid n, Ymd.dayNumber_ofDayNumber n⟩,
    fun _ h => Ymd.ofDayNumber_dayNumber h,
    fun _ h => ⟨Ymd.next_valid h, Ymd.dayNumber_next h⟩,
    by decide,
    Date.dayNumber_eq_ordinal,
    fun _ _ _ => Date.addDays?_ok_iff,
    fun _ _ _ => Date.addDays?_error,
    Date.weekday_eq_ordinal⟩

end Almanac
