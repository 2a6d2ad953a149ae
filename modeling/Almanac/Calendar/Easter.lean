import Almanac.Calendar.DayNumber

/-!
# Easter

Easter Sunday of the Gregorian calendar by the anonymous algorithm of 1876 (the form of Meeus,
Jones and Butcher): from the year's place in the 19-year lunar cycle and its century it finds
the paschal full moon and the Sunday after it. Ash Wednesday, which opens Lent, lies 46 days
before Easter Sunday: forty fasting days and the six Sundays among them.
-/

namespace Almanac

/-- The month and day of Easter Sunday in year `y`. -/
def easterMonthDay (y : Int) : Int × Int :=
  let a := y % 19
  let b := y / 100
  let c := y % 100
  let d := b / 4
  let e := b % 4
  let f := (b + 8) / 25
  let g := (b - f + 1) / 3
  -- days from March 21 to the paschal full moon
  let h := (19 * a + b - d - g + 15) % 30
  let i := c / 4
  let k := c % 4
  -- days from the full moon to the following Sunday
  let l := (32 + 2 * e + 2 * i - h - k) % 7
  let m := (a + 11 * h + 22 * l) / 451
  let n := h + l - 7 * m + 114
  (n / 31, n % 31 + 1)

/-- The distance from Easter Sunday back to Ash Wednesday. -/
def ashWednesdayOffset : Int := -46

/-- Easter Sunday of a year. -/
def easterSunday? (y : Int) : Except DateFault Date :=
  let (m, d) := easterMonthDay y
  Date.make? y m d

/-- Ash Wednesday of a year: Easter Sunday moved back 46 days. -/
def ashWednesday? (y : Int) : Except DateFault Date := do
  (← easterSunday? y).addDays? ashWednesdayOffset

example : easterMonthDay 2024 = (3, 31) ∧ easterMonthDay 2025 = (4, 20) ∧
    easterMonthDay 1 = (4, 1) := by decide

end Almanac
