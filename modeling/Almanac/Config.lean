import Almanac.Fault

/-!
# Expansion options

Two options steer an expansion. The leap-day policy says what a fixed February 29 becomes in a
common year: `clamp` moves it to February 28, `skip` drops the event and every event counted
from it. The error policy says what a data-integrity problem does: `raise` stops the expansion
at the first one, `skip` drops the failing event and keeps a warning.

Options arrive as a record of named values: a name other than the two is refused first, then
the leap-day policy is checked, then the error policy.
-/

namespace Almanac

/-- What a fixed February 29 becomes in a common year. -/
inductive LeapPolicy where
  /-- February 28. -/
  | clamp
  /-- Nothing: the event does not occur that year. -/
  | skip
  deriving DecidableEq, Repr

/-- What a data-integrity problem does to an expansion. -/
inductive ErrorPolicy where
  /-- It stops the expansion. -/
  | raise
  /-- It drops the event and is kept as a warning. -/
  | skip
  deriving DecidableEq, Repr

/-- The options of an expansion. -/
structure Config where
  /-- What a fixed February 29 becomes in a common year. -/
  leapDay : LeapPolicy := .clamp
  /-- What a data-integrity problem does. -/
  onError : ErrorPolicy := .raise
  deriving DecidableEq, Repr

namespace Config

/-- The names of the leap-day policies. -/
def leapDayNames : List String := ["clamp", "skip"]

/-- The names of the error policies. -/
def onErrorNames : List String := ["raise", "skip"]

/-- The leap-day policy a value names. -/
def leapPolicyOf (v : Value) : Except Fault LeapPolicy :=
  match v with
  | .str "clamp" => .ok .clamp
  | .str "skip" => .ok .skip
  | v => .error (.badOption "leap_day_policy" leapDayNames v)

/-- The error policy a value names. -/
def errorPolicyOf (v : Value) : Except Fault ErrorPolicy :=
  match v with
  | .str "raise" => .ok .raise
  | .str "skip" => .ok .skip
  | v => .error (.badOption "on_error" onErrorNames v)

/-- The options a record of named values gives; missing ones keep their defaults. -/
def ofFields (fields : List (String × Value)) : Except Fault Config := do
  if let some f := fields.find? (fun f => f.1 != "leap_day_policy" && f.1 != "on_error") then
    throw (.unexpectedOption f.1)
  let leapDay ← match fields.find? (·.1 == "leap_day_policy") with
    | some f => leapPolicyOf f.2
    | none => pure .clamp
  let onError ← match fields.find? (·.1 == "on_error") with
    | some f => errorPolicyOf f.2
    | none => pure .raise
  pure { leapDay, onError }

end Config

end Almanac
