import Almanac.Calendar.Basic
import Almanac.Value.Basic

/-!
# Dates

A `Date` is a day of the proleptic Gregorian calendar in the years 1 to 9999, the range in
which dates are written with four-digit years. `Ymd` is a year, month and day that nothing has
checked yet.

Making a date from three numbers checks them in a fixed order. First each number must fit a
signed 32-bit word, year first, then month, then day: a number that does not even fit 64 bits
is refused as too large, one that fits 64 but not 32 bits as above or below the range. Only
then are the values checked: the year must lie in 1 to 9999, then the month in 1 to 12, then
the day in the days of that month.
-/

namespace Almanac

/-- Why three numbers are not a date. -/
inductive DateFault where
  /-- An argument is not an integer; the name of its type. -/
  | notInteger (typeName : String)
  /-- An argument does not fit a signed 64-bit word. -/
  | tooLarge
  /-- An argument fits 64 bits but lies above the signed 32-bit range. -/
  | aboveRange
  /-- An argument fits 64 bits but lies below the signed 32-bit range. -/
  | belowRange
  /-- The year lies outside 1 to 9999. -/
  | yearOutOfRange (year : Int)
  /-- The month lies outside 1 to 12. -/
  | monthOutOfRange
  /-- The day lies outside the days of the month. -/
  | dayOutOfRange
  /-- An argument is missing: its name and position. -/
  | missingArgument (name : String) (position : Nat)
  /-- More than three arguments are given: their number. -/
  | tooManyArguments (given : Nat)
  /-- The arguments are spread from a value that is no collection: the name of its type. -/
  | notSpreadable (typeName : String)
  deriving DecidableEq, Repr

namespace DateFault

/-- The message that reports a fault. -/
def message : DateFault → String
  | notInteger t => s!"'{t}' object cannot be interpreted as an integer"
  | tooLarge => "Python int too large to convert to C long"
  | aboveRange => "signed integer is greater than maximum"
  | belowRange => "signed integer is less than minimum"
  | yearOutOfRange y => s!"year {y} is out of range"
  | monthOutOfRange => "month must be in 1..12"
  | dayOutOfRange => "day is out of range for month"
  | missingArgument name position =>
    s!"function missing required argument '{name}' (pos {position})"
  | tooManyArguments given => s!"function takes at most 3 arguments ({given} given)"
  | notSpreadable t => s!"datetime.date() argument after * must be an iterable, not {t}"

end DateFault

/-- A year, month and day, not checked. -/
structure Ymd where
  /-- The year. -/
  year : Int
  /-- The month, 1 to 12 when valid. -/
  month : Int
  /-- The day of the month. -/
  day : Int
  deriving DecidableEq, Repr

/-- A month and day that exist in the year. -/
def Ymd.Valid (t : Ymd) : Prop :=
  1 ≤ t.month ∧ t.month ≤ 12 ∧ 1 ≤ t.day ∧ t.day ≤ monthLength t.year t.month

instance (t : Ymd) : Decidable t.Valid := by unfold Ymd.Valid; infer_instance

/-- A day of the proleptic Gregorian calendar in the years 1 to 9999. -/
structure Date where
  /-- The year, month and day. -/
  toYmd : Ymd
  /-- The year lies in 1 to 9999. -/
  year_mem : 1 ≤ toYmd.year ∧ toYmd.year ≤ 9999
  /-- The month and day exist in the year. -/
  valid : toYmd.Valid

namespace Date

/-- The year of a date. -/
abbrev year (d : Date) : Int := d.toYmd.year

/-- The month of a date, 1 to 12. -/
abbrev month (d : Date) : Int := d.toYmd.month

/-- The day of the month of a date. -/
abbrev day (d : Date) : Int := d.toYmd.day

instance : DecidableEq Date := fun a b =>
  if h : a.toYmd = b.toYmd then isTrue (by cases a; cases b; simp_all)
  else isFalse (fun e => h (e ▸ rfl))

/-- How a number fits a signed 32-bit word, or why it does not. -/
def wordFault? (n : Int) : Option DateFault :=
  if n < -9223372036854775808 || n ≥ 9223372036854775808 then some .tooLarge
  else if n > 2147483647 then some .aboveRange
  else if n < -2147483648 then some .belowRange
  else none

/-- The date of a checked triple, or the first fault of the value checks. -/
def ofYmdChecked (t : Ymd) : Except DateFault Date :=
  if hy : 1 ≤ t.year ∧ t.year ≤ 9999 then
    if hv : t.Valid then .ok ⟨t, hy, hv⟩
    else if 1 ≤ t.month ∧ t.month ≤ 12 then .error .dayOutOfRange
    else .error .monthOutOfRange
  else .error (.yearOutOfRange t.year)

/-- The date of three numbers, or the first fault: word ranges of year, month and day in this
order, then the year, month and day values. -/
def make? (y m d : Int) : Except DateFault Date :=
  match wordFault? y, wordFault? m, wordFault? d with
  | some f, _, _ => .error f
  | none, some f, _ => .error f
  | none, none, some f => .error f
  | none, none, none => ofYmdChecked ⟨y, m, d⟩

/-- The integer an argument stands for; truth values count as 0 and 1. -/
def argument? (v : Value) : Except DateFault Int :=
  match v.asInt? with
  | some n => .ok n
  | none => .error (.notInteger v.typeName)

/-- The date of three values, which must be integers: each is converted and fitted to a word
in turn, then the values are checked. -/
def ofValues? (y m d : Value) : Except DateFault Date := do
  let y ← argument? y
  if let some f := wordFault? y then throw f
  let m ← argument? m
  if let some f := wordFault? m then throw f
  let d ← argument? d
  if let some f := wordFault? d then throw f
  ofYmdChecked ⟨y, m, d⟩

/-- An argument that may be missing, converted and fitted to a word. -/
def fittedArgument? (name : String) (position : Nat) : Option Value → Except DateFault Int
  | none => .error (.missingArgument name position)
  | some v => do
    let n ← argument? v
    if let some f := wordFault? n then throw f
    pure n

/-- The date of a list of arguments: at most three, each converted and fitted to a word in turn,
the first missing one reported when it is reached; then the values are checked. -/
def ofArguments? (args : List Value) : Except DateFault Date := do
  if args.length > 3 then throw (.tooManyArguments args.length)
  let y ← fittedArgument? "year" 1 args[0]?
  let m ← fittedArgument? "month" 2 args[1]?
  let d ← fittedArgument? "day" 3 args[2]?
  ofYmdChecked ⟨y, m, d⟩

/-- A number with at least `width` digits, padded with zeros. -/
def padded (width : Nat) (n : Int) : String :=
  let digits := toString n.natAbs
  let body := String.ofList (List.replicate (width - digits.length) '0') ++ digits
  if n < 0 then "-" ++ body else body

/-- The ISO text of a date, `YYYY-MM-DD`. -/
def iso (d : Date) : String :=
  padded 4 d.year ++ "-" ++ padded 2 d.month ++ "-" ++ padded 2 d.day

/-- The month and day of a date, `MM-DD`. -/
def monthDayText (d : Date) : String := padded 2 d.month ++ "-" ++ padded 2 d.day

/-- Dates are ordered by year, then month, then day. -/
def key (d : Date) : Int × Int × Int := (d.year, d.month, d.day)

/-- Whether a date comes before another. -/
def before (a b : Date) : Bool :=
  a.year < b.year || (a.year == b.year && (a.month < b.month ||
    (a.month == b.month && a.day < b.day)))

end Date

end Almanac
