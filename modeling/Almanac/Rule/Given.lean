import Almanac.Rule.Resolve
import Almanac.Calendar.Arguments

/-!
# Rules given as numbers of any kind

A rule built directly from three values keeps them as they are: a month, weekday or ordinal may
be an integer, a truth value or a float, as long as it passes the range checks, which only
compare. Truth values then behave as 0 and 1 everywhere except where they are written out
(`True`). A float serves where a number is only compared or looked up by equality (the ordinal
`2.0` is the second), but not where it indexes the names of weekdays and months, and a day
computed from it is no date part.

Each step reports what the values allow: the words of the rule, its recurrence text, and its
date in a year, which goes through the integer rule the values stand for.
-/

namespace Almanac

/-- A rule given by three values that passed the range checks. -/
structure GivenRule where
  /-- The month as given. -/
  month : Value
  /-- The weekday as given. -/
  weekday : Value
  /-- The ordinal as given; equal to -1 for the last occurrence. -/
  ordinal : Value

namespace GivenRule

/-- Checks the month, the weekday and the ordinal in this order; values that are no numbers
cannot be compared with the bounds. The ordinal may also equal -1. -/
def check? (m w o : Value) : Except Fault GivenRule := do
  unless ← m.within? 1 12 do throw (.outOfBounds "month" "1..12" m)
  unless ← w.within? 0 6 do throw (.outOfBounds "weekday" "0..6" w)
  unless o.equals (.int (-1)) do
    unless ← o.within? 1 5 do throw (.outOfBounds "ordinal" "1..5 or LAST" o)
  pure ⟨m, w, o⟩

/-- Whether the rule names the last occurrence. -/
def isLast (g : GivenRule) : Bool := g.ordinal.equals (.int (-1))

/-- The whole number a checked value stands for, if it has one. -/
def wholeOf : Value → Option Int
  | .float bits => Value.floatInt? bits
  | v => v.integer?

/-- A checked value as an index into a sequence: integers and truth values only. -/
def indexOf (sequence : String) (v : Value) : Except Fault Int :=
  match v.integer? with
  | some n => .ok n
  | none => .error (.indexType sequence v.typeName)

/-- The ordinal a checked value stands for, looked up by equality among 1 to 5 and -1. -/
def ordinalOf (v : Value) : Except Fault Ordinal :=
  match wholeOf v with
  | some (-1) => .ok .last
  | some n => if 1 ≤ n ∧ n ≤ 5 then .ok (.nth n.toNat) else .error (.missingKey v.text)
  | none => .error (.missingKey v.text)

/-- The integer rule the values stand for: the ordinal looked up, then the weekday and the
month used as indices. -/
def toRule? (g : GivenRule) : Except Fault Rule := do
  let o ← ordinalOf g.ordinal
  let w ← indexOf "tuple" g.weekday
  let m ← indexOf "list" g.month
  match Rule.make? m w o.toInt with
  | .ok r => pure r
  | .error f => throw (.rule f)

/-- The rule in words. -/
def describe? (g : GivenRule) : Except Fault String := do
  pure (← g.toRule?).describe

/-- The rule as a recurrence text, with the month and a counted ordinal written as given. -/
def format? (g : GivenRule) : Except Fault String := do
  let w ← indexOf "tuple" g.weekday
  let ordinal := if g.isLast then "-1" else g.ordinal.text
  pure ("FREQ=YEARLY;BYMONTH=" ++ g.month.text ++ ";BYDAY=" ++ ordinal ++ Rule.dayCode w)

/-- The date of the rule in a year given as a value. A counted ordinal given as a float makes
the day a float, which is no date part unless the day is already past the month. -/
def resolve? (g : GivenRule) (year : Value) (eventId : Option String) : Except Fault Date := do
  let r ← g.toRule?
  let y ← (checkYear year).mapError .year
  let floatDay := !g.isLast && match g.ordinal with
    | .float _ => true
    | _ => false
  match r.dayIn y with
  | none => throw (.problem { cause := .noOccurrence r y eventId })
  | some d =>
    if floatDay then throw (.date (.notInteger "float"))
    else (Date.make? y r.month d).mapError .date

end GivenRule

example : (match (do (← GivenRule.check? (.int 8) (.int 0) (.int 5)).describe?) with
    | .ok s => s == "fifth Monday of August"
    | .error _ => false) = true := by
  decide +kernel

end Almanac
