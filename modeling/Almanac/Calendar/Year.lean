import Almanac.Value.Basic

/-!
# Supported years

Feasts and events are computed for the years 1 to 9999 only. A year given as a value must be an
integer proper: a truth value, a float or a text is refused for its type before any range is
considered.
-/

namespace Almanac

/-- The first and last supported years. -/
def firstYear : Int := 1

/-- The last supported year. -/
def lastYear : Int := 9999

/-- Why a value is not a supported year. -/
inductive YearFault where
  /-- The value is not an integer; the name of its type. -/
  | notInteger (typeName : String)
  /-- The integer lies outside 1 to 9999. -/
  | outOfRange (year : Int)
  deriving DecidableEq, Repr

namespace YearFault

/-- The message that reports a fault. -/
def message : YearFault → String
  | notInteger t => s!"year must be an int, got {t}"
  | outOfRange y => s!"year {y} outside supported range {firstYear}..{lastYear}"

end YearFault

/-- A supported year, or why an integer is not one. -/
def checkYearInt (y : Int) : Except YearFault Int :=
  if firstYear ≤ y ∧ y ≤ lastYear then .ok y else .error (.outOfRange y)

/-- A supported year given as a value: an integer (not a truth value) in 1 to 9999. -/
def checkYear : Value → Except YearFault Int
  | .int y => checkYearInt y
  | v => .error (.notInteger v.typeName)

end Almanac
