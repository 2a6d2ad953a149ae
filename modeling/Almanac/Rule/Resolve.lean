import Almanac.Fault
import Almanac.Calendar.DayNumber

/-!
# Resolving weekday rules

The day a rule names in a given year. The last occurrence of a weekday is found back from the
last day of the month; the `n`-th is found forward from the first day, as the first occurrence
plus `n - 1` weeks. A fifth occurrence can be missing, and then the rule has no day in that
year.
-/

namespace Almanac

namespace Rule

/-- The weekday of a day of a month, 0 for Monday. -/
def weekdayOf (y m d : Int) : Int := Ymd.dayNumber ⟨y, m, d⟩ % 7

/-- The day of the month that a rule names in year `y`, if the month has it. -/
def dayIn (r : Rule) (y : Int) : Option Int :=
  let n := monthLength y r.month
  match r.ordinal with
  | .last => some (n - (weekdayOf y r.month n - r.weekday) % 7)
  | .nth k =>
    let d := 1 + (r.weekday - weekdayOf y r.month 1) % 7 + ((k : Int) - 1) * 7
    if d > n then none else some d

/-- The date a rule names in a supported year; the problem of a missing occurrence names the
event the rule belongs to, if one is given. -/
def resolveIn (r : Rule) (y : Int) (eventId : Option String) : Except Fault Date :=
  match r.dayIn y with
  | none => .error (.problem { cause := .noOccurrence r y eventId })
  | some d => (Date.make? y r.month d).mapError .date

/-- The date a rule names in a year given as a value, which must be a supported year. -/
def resolve (r : Rule) (year : Value) (eventId : Option String) : Except Fault Date := do
  let y ← (checkYear year).mapError .year
  r.resolveIn y eventId

/-- A number bound of a rule given as a value: an integer, or a truth value as 0 or 1. -/
def boundOf (v : Value) : Except Fault Int :=
  match v.asInt? with
  | some n => .ok n
  | none => .error (.unordered v.typeName)

/-- The rule of a month, weekday and ordinal given as values, each checked in turn. -/
def ofValues? (m w o : Value) : Except Fault Rule := do
  let m ← boundOf m
  if ¬(1 ≤ m ∧ m ≤ 12) then throw (.rule (.month m))
  let w ← boundOf w
  if ¬(0 ≤ w ∧ w ≤ 6) then throw (.rule (.weekday w))
  let o ← boundOf o
  (make? m w o).mapError .rule

end Rule

end Almanac
