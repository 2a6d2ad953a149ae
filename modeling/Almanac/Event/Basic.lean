import Almanac.Rule.Basic
import Almanac.Calendar.Feast
import Almanac.Value.Literal

/-!
# Event definitions

An event definition says how an event of a country is dated each year. It declares one of
three kinds:

- *fixed*: the same month and day every year (`MonthDay`; February 29 is allowed);
- *rule*: a weekday rule (`Rule`);
- *relative*: a signed number of days after an anchor, which is a well-known feast or another
  event of the same country.

A definition carries its declarations as three optional parts, because definitions can be
built with none or with several; `Definition.kind?` finds the single declared kind and names
the parts otherwise. The remaining fields describe the event for people: title, category,
tags, description, location and sources.
-/

namespace Almanac

/-- The longest a month can be in any year: February has 29 days. -/
def maxMonthLength (m : Int) : Int := if m = 2 then 29 else monthLength 2001 m

/-- A month and day that recur every year. -/
structure MonthDay where
  /-- The month, 1 to 12. -/
  month : Int
  /-- The day, within the longest form of the month. -/
  day : Int
  /-- The month lies in 1 to 12. -/
  month_mem : 1 ≤ month ∧ month ≤ 12
  /-- The day exists in the month in some year. -/
  day_mem : 1 ≤ day ∧ day ≤ maxMonthLength month

/-- Why two numbers are not a month and day. -/
inductive MonthDayFault where
  /-- The month lies outside 1 to 12. -/
  | month (m : Int)
  /-- The day does not exist in the month. -/
  | day (d m : Int)
  deriving DecidableEq, Repr

/-- The message that reports a fault. -/
def MonthDayFault.message : MonthDayFault → String
  | .month m => s!"month must be in 1..12, got {m}"
  | .day d m => s!"day {d} is not valid for month {m}"

namespace MonthDay

/-- The month and day of two numbers, the month checked first. -/
def make? (m d : Int) : Except MonthDayFault MonthDay :=
  if hm : 1 ≤ m ∧ m ≤ 12 then
    if hd : 1 ≤ d ∧ d ≤ maxMonthLength m then .ok ⟨m, d, hm, hd⟩ else .error (.day d m)
  else .error (.month m)

/-- Whether a month and day is February 29. -/
def isLeapDay (md : MonthDay) : Bool := md.month == 2 && md.day == 29

/-- Two digits, padded with a zero. -/
def twoDigits (n : Int) : String := if 0 ≤ n ∧ n < 10 then s!"0{n}" else toString n

/-- The text `MM-DD`. -/
def text (md : MonthDay) : String := twoDigits md.month ++ "-" ++ twoDigits md.day

end MonthDay

/-- What a relative event counts from: a name, or a value that is not a text and therefore
names nothing. -/
inductive AnchorRef where
  /-- A feast name, an event id, or an older spelling of a feast name. -/
  | name (s : String)
  /-- Any other value. -/
  | other (v : Value)
  deriving Inhabited

namespace AnchorRef

/-- The reference as a value. -/
def toValue : AnchorRef → Value
  | name s => .str s
  | other v => v

/-- The reference as messages show it: the name itself, or the literal of the value. -/
def text : AnchorRef → String
  | name s => s
  | other v => v.text

/-- The reference with older spellings of feast names replaced by the names. -/
def normalize : AnchorRef → AnchorRef
  | name s => name (normalizeName s)
  | other v => other v

/-- The reference of a value. -/
def ofValue : Value → AnchorRef
  | .str s => name s
  | v => other v

end AnchorRef

/-- A signed distance in days from an anchor. -/
structure Relative where
  /-- What the distance counts from. -/
  anchor : AnchorRef
  /-- The number of days after the anchor (before it when negative). -/
  offset : Int
  deriving Inhabited

/-- The kinds of declaration. -/
inductive Kind where
  /-- A fixed month and day. -/
  | fixed
  /-- A weekday rule. -/
  | rule
  /-- A distance from an anchor. -/
  | relative
  deriving DecidableEq, Repr

/-- The name of a kind, as listings show it. -/
def Kind.name : Kind → String
  | .fixed => "fixed"
  | .rule => "recurrence"
  | .relative => "relative"

/-- A country's event and how it is dated. -/
structure Definition where
  /-- The identifier, unique within a dataset. -/
  id : String
  /-- The code of the country the event belongs to. -/
  country : String
  /-- The category: `historical` or `cultural` in a loaded dataset. -/
  category : String
  /-- The title. -/
  title : String := ""
  /-- A fixed month and day, if declared. -/
  fixed : Option MonthDay := none
  /-- A weekday rule, if declared. -/
  rule : Option Rule := none
  /-- A distance from an anchor, if declared. -/
  relative : Option Relative := none
  /-- Free-form tags. -/
  tags : List String := []
  /-- A description. -/
  description : String := ""
  /-- Where the event takes place. -/
  location : String := ""
  /-- Where the facts come from. -/
  sources : List String := []
  deriving Inhabited

namespace Definition

/-- The declared kinds, in the order fixed, rule, relative. -/
def declared (ev : Definition) : List Kind :=
  (if ev.fixed.isSome then [Kind.fixed] else []) ++
  (if ev.rule.isSome then [Kind.rule] else []) ++
  (if ev.relative.isSome then [Kind.relative] else [])

/-- The single declared kind, or the declared kinds when there is not exactly one. -/
def kind? (ev : Definition) : Except (List Kind) Kind :=
  match ev.declared with
  | [k] => .ok k
  | ks => .error ks

end Definition

/-- How a definition dates its event. -/
inductive Declaration where
  /-- On a fixed month and day. -/
  | fixed (md : MonthDay)
  /-- By a weekday rule. -/
  | rule (r : Rule)
  /-- At a distance from an anchor. -/
  | relative (rel : Relative)

/-- The single declaration of a definition, or the declared kinds when there is not exactly
one. -/
def Definition.declaration? (ev : Definition) : Except (List Kind) Declaration :=
  match ev.fixed, ev.rule, ev.relative with
  | some md, none, none => .ok (.fixed md)
  | none, some r, none => .ok (.rule r)
  | none, none, some rel => .ok (.relative rel)
  | _, _, _ => .error ev.declared

/-- The kind of a declaration. -/
def Declaration.kind : Declaration → Kind
  | .fixed _ => .fixed
  | .rule _ => .rule
  | .relative _ => .relative

/-- A country, by its code and name. -/
structure Country where
  /-- The country code. -/
  code : String
  /-- The country's name. -/
  name : String
  deriving DecidableEq, Repr

end Almanac
