import Almanac.Calendar.Lookup
import Almanac.Value.Equality

/-!
# Calendar functions on arguments given as values

The calendar functions take their arguments as values, so an argument may have any type. Each
function fails the way its arithmetic does on a value of a wrong type: a sum with a number
needs a number, a remainder by four needs a number, an order comparison with a bound needs a
number, and a date accepts only integers. Truth values count as 0 and 1 throughout, and a
float passes the arithmetic but is no date part, so a date computed from one fails.

A date argument is spread into year, month and day: a list gives its items, a text its
characters and a record its keys.
-/

namespace Almanac

namespace Value

/-- The greatest integer at most a finite float. -/
def floatFloor? (bits : UInt64) : Option Int :=
  if (bits.toNat / Nat.pow 2 52) % 2048 = 2047 then none
  else
    let b := Decimal.Binary.ofBits bits
    if b.q ≥ 0 then
      let n : Int := b.m * Nat.pow 2 b.q.toNat
      some (if b.negative then -n else n)
    else
      let unit := Nat.pow 2 (-b.q).toNat
      let whole : Int := b.m / unit
      if !b.negative then some whole
      else if b.m % unit = 0 then some (-whole)
      else some (-whole - 1)

end Value

/-- The leap-year test of a year given as a value, by the remainders of its number by 4, 100
and 400: a float is a leap year only when it is a whole leap year; a text reads a remainder as
a format, which has no place for the number; other values have no remainder. -/
def leapYearOf : Value → Except Fault Bool
  | .int n => .ok (isLeapYear n)
  | .bool b => .ok (isLeapYear (if b then 1 else 0))
  | .float bits => .ok (match Value.floatInt? bits with
    | some n => isLeapYear n
    | none => false)
  | .str _ => .error .textRemainder
  | v => .error (.remainder v.typeName)

/-- The arguments a value spreads into: the items of a list, the characters of a text as texts
and the keys of a record; other values are no collection. -/
def spreadArguments : Value → Except DateFault (List Value)
  | .list xs => .ok xs
  | .str s => .ok (s.toList.map fun c => .str (String.singleton c))
  | .record fs => .ok (fs.map fun f => .str f.1)
  | v => .error (.notSpreadable v.typeName)

/-- The date whose year, month and day a value spreads into. -/
def Date.ofSpread? (v : Value) : Except Fault Date :=
  (do Date.ofArguments? (← spreadArguments v)).mapError .date

/-- The date of a day number given as a value. The number is shifted first, which texts and
lists refuse as a concatenation and other non-numbers as a sum; a float gives float parts,
which no date accepts. -/
def dateOfDayNumber? : Value → Except Fault Date
  | .int n => (Date.ofDayNumber? n).mapError .date
  | .bool b => (Date.ofDayNumber? (if b then 1 else 0)).mapError .date
  | .float _ => .error (.date (.notInteger "float"))
  | .str _ => .error (.concatenation "str")
  | .list _ => .error (.concatenation "list")
  | v => .error (.addition v.typeName "int")

/-- A date shifted by a number of days given as a value: the number is added to the date's day
number, and a float gives float parts, which no date accepts. -/
def Date.shiftBy? (d : Date) : Value → Except Fault Date
  | .int n => (d.addDays? n).mapError .date
  | .bool b => (d.addDays? (if b then 1 else 0)).mapError .date
  | .float _ => .error (.date (.notInteger "float"))
  | v => .error (.addition "int" v.typeName)

/-- Whether a value lies between two integer bounds; only numbers are ordered with them. -/
def Value.within? (lo hi : Int) : Value → Except Fault Bool
  | .int n => .ok (lo ≤ n && n ≤ hi)
  | .bool b => let n : Int := if b then 1 else 0; .ok (lo ≤ n && n ≤ hi)
  | .float bits => .ok (match Value.floatFloor? bits with
    | some f => lo ≤ f && (f < hi || (f == hi && (Value.floatInt? bits).isSome))
    | none => false)
  | v => .error (.unordered v.typeName)

/-- The number of days of a month, year and month given as values. The month is checked to lie
in 1 to 12 first; then the year is compared with the supported years (only numbers compare) and
the first day of the month is formed, which needs integer year and month. -/
def monthLengthOf? (year month : Value) : Except Fault Int := do
  unless ← month.within? 1 12 do throw (.badMonth month)
  let _ ← year.within? firstYear lastYear
  match year.integer?, month.integer? with
  | some y, some m => pure (monthLength y m)
  | _, _ => throw (.date (.notInteger "float"))

example : Value.floatFloor? 0xC004000000000000 = some (-3) ∧
    Value.floatFloor? 0x4004000000000000 = some 2 := by decide

end Almanac
