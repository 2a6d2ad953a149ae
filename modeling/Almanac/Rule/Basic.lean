import Almanac.Calendar.Basic

/-!
# Weekday rules

A rule names one day in every year: the first to fifth, or the last, given weekday of a given
month ("the third Monday of October"). Its month lies in 1 to 12, its weekday in 0 (Monday) to
6 (Sunday), and a counted ordinal in 1 to 5; `Rule.make?` checks these in that order.

A rule is described in words (`second Saturday of June`) and written as a yearly recurrence
text, `FREQ=YEARLY;BYMONTH=6;BYDAY=2SA`, where the last occurrence has ordinal -1.
-/

namespace Almanac

/-- Which occurrence of a weekday in its month a rule names. -/
inductive Ordinal where
  /-- The `n`-th occurrence, counted from the start of the month. -/
  | nth (n : Nat)
  /-- The last occurrence. -/
  | last
  deriving DecidableEq, Repr

namespace Ordinal

/-- The number that stands for an ordinal: `n`, or -1 for the last. -/
def toInt : Ordinal → Int
  | nth n => n
  | last => -1

/-- The English word for an ordinal. -/
def word : Ordinal → String
  | nth 1 => "first"
  | nth 2 => "second"
  | nth 3 => "third"
  | nth 4 => "fourth"
  | nth 5 => "fifth"
  | nth _ => ""
  | last => "last"

/-- A counted ordinal lies in 1 to 5. -/
def Valid : Ordinal → Prop
  | nth n => 1 ≤ n ∧ n ≤ 5
  | last => True

instance : (o : Ordinal) → Decidable o.Valid
  | nth n => inferInstanceAs (Decidable (1 ≤ n ∧ n ≤ 5))
  | last => isTrue trivial

end Ordinal

/-- The `ordinal` occurrence of `weekday` in `month`, every year. -/
structure Rule where
  /-- The month, 1 to 12. -/
  month : Int
  /-- The weekday, 0 (Monday) to 6 (Sunday). -/
  weekday : Int
  /-- Which occurrence of the weekday. -/
  ordinal : Ordinal
  /-- The month lies in 1 to 12. -/
  month_mem : 1 ≤ month ∧ month ≤ 12
  /-- The weekday lies in 0 to 6. -/
  weekday_mem : 0 ≤ weekday ∧ weekday ≤ 6
  /-- A counted ordinal lies in 1 to 5. -/
  ordinal_valid : ordinal.Valid

/-- Why three numbers are not a rule. -/
inductive RuleFault where
  /-- The month lies outside 1 to 12. -/
  | month (m : Int)
  /-- The weekday lies outside 0 to 6. -/
  | weekday (w : Int)
  /-- The ordinal is neither -1 nor in 1 to 5. -/
  | ordinal (o : Int)
  deriving DecidableEq, Repr

/-- The message that reports a fault. -/
def RuleFault.message : RuleFault → String
  | .month m => s!"month must be in 1..12, got {m}"
  | .weekday w => s!"weekday must be in 0..6, got {w}"
  | .ordinal o => s!"ordinal must be in 1..5 or LAST, got {o}"

namespace Rule

/-- The ordinal a number stands for: -1 is the last, 1 to 5 count. -/
def ordinalOf? (o : Int) : Option { x : Ordinal // x.Valid } :=
  if o = -1 then some ⟨.last, trivial⟩
  else if h : 1 ≤ o ∧ o ≤ 5 then some ⟨.nth o.toNat, by simp only [Ordinal.Valid]; omega⟩
  else none

/-- The rule of a month, weekday and ordinal (-1 for the last), checked in this order. -/
def make? (m w o : Int) : Except RuleFault Rule :=
  if hm : 1 ≤ m ∧ m ≤ 12 then
    if hw : 0 ≤ w ∧ w ≤ 6 then
      match ordinalOf? o with
      | some ⟨x, hx⟩ => .ok ⟨m, w, x, hm, hw, hx⟩
      | none => .error (.ordinal o)
    else .error (.weekday w)
  else .error (.month m)

/-- Whether a rule names the last occurrence. -/
def isLast (r : Rule) : Bool := r.ordinal == .last

/-- The two-letter code of a weekday. -/
def dayCode (w : Int) : String :=
  match w with
  | 0 => "MO" | 1 => "TU" | 2 => "WE" | 3 => "TH" | 4 => "FR" | 5 => "SA" | 6 => "SU"
  | _ => ""

/-- A rule in words: `second Saturday of June`. -/
def describe (r : Rule) : String :=
  s!"{r.ordinal.word} {weekdayName r.weekday} of {monthName r.month}"

/-- A rule as a yearly recurrence text. -/
def format (r : Rule) : String :=
  s!"FREQ=YEARLY;BYMONTH={r.month};BYDAY={r.ordinal.toInt}{dayCode r.weekday}"

end Rule

end Almanac
