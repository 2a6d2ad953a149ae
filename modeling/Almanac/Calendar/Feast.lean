import Almanac.Calendar.Easter

/-!
# Well-known feasts

The moveable feasts that every dataset may refer to by name: `ash-wednesday` and
`easter-sunday`. Older data spells them `ash_wednesday`, `easter_sunday` or just `easter`;
`normalizeName` maps those spellings to the names above and leaves every other name as it is.
-/

namespace Almanac

/-- A moveable feast that datasets may refer to by name. -/
inductive Feast where
  /-- Ash Wednesday, 46 days before Easter. -/
  | ashWednesday
  /-- Easter Sunday. -/
  | easterSunday
  deriving DecidableEq, Repr

namespace Feast

/-- The name of a feast. -/
def name : Feast → String
  | ashWednesday => "ash-wednesday"
  | easterSunday => "easter-sunday"

/-- All feasts, in the order of their names. -/
def all : List Feast := [ashWednesday, easterSunday]

/-- The date of a feast in a year. -/
def date? : Feast → Int → Except DateFault Date
  | ashWednesday, y => ashWednesday? y
  | easterSunday, y => easterSunday? y

end Feast

/-- The name a spelling stands for: older spellings of the feasts map to their names. -/
def normalizeName (s : String) : String :=
  match s with
  | "ash_wednesday" => "ash-wednesday"
  | "easter_sunday" => "easter-sunday"
  | "easter" => "easter-sunday"
  | _ => s

/-- The feast a name or spelling refers to. -/
def Feast.ofName? (s : String) : Option Feast :=
  Feast.all.find? (·.name == normalizeName s)

/-- Whether a name or spelling refers to a feast. -/
def isFeastName (s : String) : Bool := (Feast.ofName? s).isSome

example : Feast.ofName? "easter" = some .easterSunday ∧ Feast.ofName? "Easter" = none := by
  decide

end Almanac
