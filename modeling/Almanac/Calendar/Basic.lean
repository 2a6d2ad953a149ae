/-!
# The proleptic Gregorian calendar

Leap years, month lengths and the names of months and weekdays, for every integer year: the
Gregorian rules are applied to all years, before 1582 as after. A year is a leap year when it
is divisible by 4 and either not by 100 or by 400. Weekdays are numbered from Monday, 0, to
Sunday, 6.
-/

namespace Almanac

/-- Whether a year has a February 29. -/
def isLeapYear (y : Int) : Bool := y % 4 == 0 && (y % 100 != 0 || y % 400 == 0)

/-- The number of days of month `m` (1 to 12) of year `y`; zero for any other month number. -/
def monthLength (y m : Int) : Int :=
  if m = 2 then (if isLeapYear y then 29 else 28)
  else if m = 4 || m = 6 || m = 9 || m = 11 then 30
  else if 1 ≤ m && m ≤ 12 then 31
  else 0

/-- The English name of month `m` (1 to 12). -/
def monthName (m : Int) : String :=
  match m with
  | 1 => "January" | 2 => "February" | 3 => "March" | 4 => "April"
  | 5 => "May" | 6 => "June" | 7 => "July" | 8 => "August"
  | 9 => "September" | 10 => "October" | 11 => "November" | 12 => "December"
  | _ => ""

/-- The English name of weekday `w` (0 is Monday, 6 is Sunday). -/
def weekdayName (w : Int) : String :=
  match w with
  | 0 => "Monday" | 1 => "Tuesday" | 2 => "Wednesday" | 3 => "Thursday"
  | 4 => "Friday" | 5 => "Saturday" | 6 => "Sunday"
  | _ => ""

/-- A month has between 28 and 31 days. -/
theorem monthLength_bounds (y m : Int) (hm : 1 ≤ m ∧ m ≤ 12) :
    28 ≤ monthLength y m ∧ monthLength y m ≤ 31 := by
  unfold monthLength
  split
  · split <;> omega
  · split
    · omega
    · simp only [Bool.and_eq_true, decide_eq_true_eq]
      split <;> omega

example : isLeapYear 2000 ∧ !isLeapYear 1900 ∧ isLeapYear 2024 ∧ !isLeapYear (-100) := by decide

end Almanac
