import Almanac.Event.Basic
import Almanac.Calendar.Year
import Almanac.Calendar.Date

/-!
# Faults

Every way an operation of this library can fail, as a cause with the data that explains it,
and the one message that reports each cause.

*Problems* are the faults of the data itself: a malformed definition, a rule with no
occurrence in a year, a reference to an unknown anchor, a cycle of relative references. A
problem names the definition at fault and, once an expansion has run into it, the event being
expanded; when that is another event, the message says so.

The other faults concern the shape of the input: wrong types, numerals that do not read,
dates that do not exist, options that are not allowed. `Fault.kind` sorts all faults into
the classes that callers tell apart.
-/

namespace Almanac

/-- Why a recurrence text is not a rule. Every case but the last two quotes the whole text. -/
inductive RuleTextFault where
  /-- A part without `=`. -/
  | malformedPart (item text : String)
  /-- The frequency is missing or not yearly. -/
  | notYearly (text : String)
  /-- An interval other than 1. -/
  | interval (text : String)
  /-- The month or the day part is missing. -/
  | needsMonthAndDay (text : String)
  /-- The month part is not one numeral. -/
  | monthNotNumber (text : String)
  /-- The day part is not an optional ordinal and one weekday code. -/
  | dayNotWeekday (text : String)
  /-- An ordinal both in the day part and in a set position. -/
  | ordinalTwice (text : String)
  /-- An ordinal below 1 other than -1. -/
  | ordinalNotPositive (text : String)
  /-- Parts that no rule uses; their names, sorted. -/
  | unsupported (keys : List String) (text : String)
  /-- A set position that is no numeral; the text read. -/
  | numeral (literal : String)
  /-- Numbers outside the ranges of a rule. -/
  | range (f : RuleFault)
  deriving Repr

namespace RuleTextFault

/-- The message that reports a fault. -/
def message : RuleTextFault → String
  | malformedPart item text => s!"Malformed RRULE part '{item}' in '{text}'"
  | notYearly text => s!"Only FREQ=YEARLY rules are supported: '{text}'"
  | interval text => s!"INTERVAL other than 1 is not supported: '{text}'"
  | needsMonthAndDay text => s!"RRULE needs BYMONTH and BYDAY: '{text}'"
  | monthNotNumber text => s!"BYMONTH must be a single month number: '{text}'"
  | dayNotWeekday text => s!"BYDAY must name a single weekday: '{text}'"
  | ordinalTwice text => s!"Give the ordinal in BYDAY or BYSETPOS, not both: '{text}'"
  | ordinalNotPositive text =>
    s!"Only positive ordinals or -1 (last) are supported: '{text}'"
  | unsupported keys text =>
    "Unsupported RRULE parts " ++ (Value.list (keys.map .str)).literal ++ s!" in '{text}'"
  | numeral literal => "invalid literal for int() with base 10: " ++ Text.quote literal
  | range f => f.message

end RuleTextFault

/-- Why the text of a fixed date is not a month and day. -/
inductive FixedDateFault where
  /-- The text does not split into two parts at `-`; the number of parts. -/
  | parts (got : Nat)
  /-- A part is no numeral. -/
  | numeral (literal : String)
  /-- The numbers are no month and day. -/
  | range (f : MonthDayFault)
  deriving Repr

/-- The message that reports a fault. -/
def FixedDateFault.message : FixedDateFault → String
  | .parts got =>
    if got > 2 then "too many values to unpack (expected 2)"
    else s!"not enough values to unpack (expected 2, got {got})"
  | .numeral literal => "invalid literal for int() with base 10: " ++ Text.quote literal
  | .range f => f.message

/-- What is wrong with one field of an event record. -/
inductive FieldFault where
  /-- The category is not one of the two. -/
  | category (v : Value)
  /-- The country code is missing, empty or not a text. -/
  | missingCountry
  /-- The fixed date is not `MM-DD`. -/
  | fixedDate (text : String) (reason : FixedDateFault)
  /-- The recurrence text is not a rule. -/
  | rule (reason : RuleTextFault)
  /-- The offset is not an integer. -/
  | offset (v : Value)
  /-- A field that must be a list of texts is not. -/
  | notStrings (field : String)

/-- The message that reports a fault. -/
def FieldFault.message : FieldFault → String
  | .category v => "category must be one of ('historical', 'cultural'), got " ++ v.literal
  | .missingCountry => "missing country_code"
  | .fixedDate text reason => s!"fixed_date must be MM-DD, got '{text}': " ++ reason.message
  | .rule reason => reason.message
  | .offset v => "offset_days must be an integer, got " ++ v.literal
  | .notStrings field => s!"{field} must be a list of strings"

/-- What makes a definition or an event record malformed. -/
inductive Malformation where
  /-- A record without a non-empty text id. -/
  | noUsableId (record : Value)
  /-- An id that is the name or a spelling of a well-known feast. -/
  | reservedId (id : String)
  /-- A field of a record is wrong. -/
  | field (id : String) (fault : FieldFault)
  /-- Not exactly one kind is declared; the declared kinds. -/
  | declarations (id : String) (declared : List Kind)
  /-- An id given twice in a dataset. -/
  | duplicate (id : String)

namespace Malformation

/-- The definition at fault. -/
def eventId? : Malformation → Option String
  | noUsableId _ => none
  | reservedId id | field id _ | declarations id _ | duplicate id => some id

/-- The declared kinds in words: `none`, or their names joined by `and`. -/
def declaredText (ks : List Kind) : String :=
  if ks.isEmpty then "none" else " and ".intercalate (ks.map Kind.name)

/-- The message that reports a malformation. -/
def message : Malformation → String
  | noUsableId record => "Event record without a usable id: " ++ record.literal
  | reservedId id =>
    s!"Event '{id}': id collides with the well-known anchor '{normalizeName id}'"
  | field id f => s!"Event '{id}': " ++ f.message
  | declarations id ks =>
    s!"Event '{id}' must declare exactly one of fixed_date, rrule, relative_to (got " ++
      declaredText ks ++ ")"
  | duplicate id => s!"Duplicate event id '{id}'"

end Malformation

/-- The data-integrity errors of definitions. -/
inductive Cause where
  /-- A malformed definition or record. -/
  | malformed (m : Malformation)
  /-- A rule names a fifth weekday that the month lacks in that year. -/
  | noOccurrence (rule : Rule) (year : Int) (eventId : Option String)
  /-- A relative event refers to a name that is neither a feast nor an event. -/
  | unknownAnchor (requestedBy : Option String) (anchor : AnchorRef)
  /-- Relative references go round in a cycle; the ids along it, the first repeated last. -/
  | cycle (chain : List String)

namespace Cause

/-- The definition at fault. -/
def eventId? : Cause → Option String
  | malformed m => m.eventId?
  | noOccurrence _ _ e => e
  | unknownAnchor r _ => r
  | cycle chain => chain.head?

/-- The message that reports a cause. -/
def message : Cause → String
  | malformed m => m.message
  | noOccurrence r y e =>
    s!"No {r.describe} in {y}" ++
      (match e with
       | some id => if id.isEmpty then "" else s!" (event '{id}')"
       | none => "")
  | unknownAnchor r a =>
    let who := match r with
      | some id => if id.isEmpty then "Lookup" else s!"Event '{id}'"
      | none => "Lookup"
    s!"{who} references unknown anchor '{a.text}'"
  | cycle chain => "Circular relative_to chain: " ++ " -> ".intercalate chain

end Cause

/-- A data-integrity error, with the event whose expansion ran into it. -/
structure Problem where
  /-- What is wrong. -/
  cause : Cause
  /-- The event being expanded when the problem came up, once an expansion has seen it. -/
  expanding : Option String := none
  /-- The problem this one was raised from, when it was raised as a tagged copy of it. -/
  raisedFrom : Option Problem := none

namespace Problem

/-- The definition at fault. -/
def eventId? (p : Problem) : Option String := p.cause.eventId?

/-- The problem as met while expanding `id`: the problem itself, tagged, when `id` is the
definition at fault, and otherwise a tagged copy, which is raised from nothing yet. -/
def whileExpanding (p : Problem) (id : String) : Problem :=
  if p.eventId? == some id then { p with expanding := some id }
  else { p with expanding := some id, raisedFrom := none }

/-- The problem raised when expanding `id` runs into `p`: the problem itself, tagged, when `id` is
the definition at fault, and otherwise its tagged copy, raised from it. -/
def raisedWhileExpanding (p : Problem) (id : String) : Problem :=
  if p.eventId? == some id then p.whileExpanding id
  else { p.whileExpanding id with raisedFrom := some p }

/-- The message: the cause, followed by the expanded event when that is not the one at
fault. -/
def message (p : Problem) : String :=
  p.cause.message ++
    match p.expanding with
    | some x => if some x == p.eventId? then "" else s!" (while expanding '{x}')"
    | none => ""

end Problem

/-- Everything that can go wrong. -/
inductive Fault where
  /-- A year argument is not a supported year. -/
  | year (f : YearFault)
  /-- Three numbers are not a date. -/
  | date (f : DateFault)
  /-- A month outside 1 to 12 where a month is looked up. -/
  | badMonth (month : Value)
  /-- A text is no integer numeral; the text. -/
  | numeral (literal : String)
  /-- A text splits into the wrong number of parts. -/
  | parts (expected got : Nat)
  /-- A value of the named type lacks an operation. -/
  | noAttribute (typeName member : String)
  /-- A list or record is used as a key. -/
  | unhashable (typeName : String)
  /-- An integer bound is compared with a value of another type. -/
  | unordered (typeName : String)
  /-- A value that is not a collection is walked as one. -/
  | notIterable (typeName : String)
  /-- A field is looked up by name in a value that has no fields. -/
  | notIndexable (typeName : String)
  /-- A record lacks a required field. -/
  | missingKey (key : String)
  /-- Numbers are no rule. -/
  | rule (f : RuleFault)
  /-- A recurrence text is no rule. -/
  | ruleText (f : RuleTextFault)
  /-- Numbers are no month and day. -/
  | monthDay (f : MonthDayFault)
  /-- A name is not a well-known feast. -/
  | unknownFeast (name : String)
  /-- An option of an expansion has a value outside its allowed ones. -/
  | badOption (option : String) (allowed : List String) (v : Value)
  /-- An expansion has no option of this name. -/
  | unexpectedOption (name : String)
  /-- A category filter outside `all` and the two categories. -/
  | badCategory (v : Value)
  /-- An anchor table is used for another year than its own. -/
  | tableYear (table requested : Value)
  /-- A definition of another kind is resolved as a relative one. -/
  | notRelative (id : String) (kind : Kind)
  /-- A relative definition is dated as a fixed or rule one. -/
  | declaredRelative (id : String)
  /-- The event left is not the last one entered on the cycle guard's stack. -/
  | guardOutOfStep (id : String)
  /-- A day is stepped to past the last date of the calendar. -/
  | dateOverflow
  /-- A file to read does not exist. -/
  | missingFile (path : String)
  /-- A file's text is not a JSON document; why not. -/
  | notJson (reason : String)
  /-- Plotting is asked for but not available. -/
  | plottingUnavailable
  /-- Options are given by a value that is not a record: its type name. -/
  | notMapping (typeName : String)
  /-- A remainder by four is taken of a value that is not a number. -/
  | remainder (typeName : String)
  /-- A remainder by four is taken of a text, which reads it as a format. -/
  | textRemainder
  /-- Two values of the named types that have no sum. -/
  | addition (left right : String)
  /-- A number is added to a sequence of the named type. -/
  | concatenation (typeName : String)
  /-- A number outside its bounds: what it is, the bounds as written, and the number. -/
  | outOfBounds (what bounds : String) (v : Value)
  /-- A sequence of the first named type is indexed by a value of the second. -/
  | indexType (sequence typeName : String)
  /-- A data-integrity problem. -/
  | problem (p : Problem)

/-- The classes of faults that callers tell apart. -/
inductive FaultKind where
  /-- A value of the right type but wrong. -/
  | value
  /-- A value of the wrong type. -/
  | type
  /-- A missing key. -/
  | key
  /-- A number beyond a machine word. -/
  | overflow
  /-- A missing operation. -/
  | attribute
  /-- A month number outside 1 to 12. -/
  | illegalMonth
  /-- A malformed definition. -/
  | malformed
  /-- A rule without an occurrence. -/
  | noOccurrence
  /-- An unknown anchor. -/
  | unknownAnchor
  /-- A cycle of references. -/
  | cycle
  /-- A missing file. -/
  | fileNotFound
  /-- A text that is no JSON document. -/
  | jsonDecode
  /-- A facility that is not available. -/
  | runtime
  deriving DecidableEq, Repr

/-- The name under which a class of faults is reported. -/
def FaultKind.className : FaultKind → String
  | .value => "ValueError"
  | .type => "TypeError"
  | .key => "KeyError"
  | .overflow => "OverflowError"
  | .attribute => "AttributeError"
  | .illegalMonth => "IllegalMonthError"
  | .malformed => "MalformedEventDefinition"
  | .noOccurrence => "InvalidRecurrenceRule"
  | .unknownAnchor => "UnknownAnchorError"
  | .cycle => "CircularReferenceError"
  | .fileNotFound => "FileNotFoundError"
  | .jsonDecode => "JSONDecodeError"
  | .runtime => "RuntimeError"

namespace Fault

/-- The class of a fault. -/
def kind : Fault → FaultKind
  | year (.notInteger _) => .type
  | year (.outOfRange _) => .value
  | date (.notInteger _) | date (.missingArgument ..) | date (.tooManyArguments _) => .type
  | date (.notSpreadable _) => .type
  | date .tooLarge | date .aboveRange | date .belowRange => .overflow
  | date _ => .value
  | badMonth _ => .illegalMonth
  | noAttribute _ _ => .attribute
  | unhashable _ | unordered _ | notIterable _ | notIndexable _ | unexpectedOption _ => .type
  | remainder _ | textRemainder | notMapping _ | addition _ _ | concatenation _ => .type
  | indexType _ _ => .type
  | guardOutOfStep _ => .runtime
  | dateOverflow => .overflow
  | missingFile _ => .fileNotFound
  | notJson _ => .jsonDecode
  | plottingUnavailable => .runtime
  | missingKey _ | unknownFeast _ => .key
  | problem p =>
    match p.cause with
    | .malformed _ => .malformed
    | .noOccurrence .. => .noOccurrence
    | .unknownAnchor .. => .unknownAnchor
    | .cycle _ => .cycle
  | _ => .value

/-- The names of the feasts, as the message for an unknown one lists them. -/
def feastNames : String := (Value.list (Feast.all.map fun f => .str f.name)).literal

/-- Texts as a tuple literal: `('a', 'b')`. -/
def tupleText (xs : List String) : String := "(" ++ ", ".intercalate (xs.map Text.quote) ++ ")"

/-- The message that reports a fault. -/
def message : Fault → String
  | year f => f.message
  | date f => f.message
  | badMonth m => "bad month number " ++ m.literal ++ "; must be 1-12"
  | numeral literal => "invalid literal for int() with base 10: " ++ Text.quote literal
  | parts expected got =>
    if got > expected then s!"too many values to unpack (expected {expected})"
    else s!"not enough values to unpack (expected {expected}, got {got})"
  | noAttribute t a => s!"'{t}' object has no attribute '{a}'"
  | unhashable t => s!"unhashable type: '{t}'"
  | unordered t => s!"'<=' not supported between instances of 'int' and '{t}'"
  | notIterable t => s!"'{t}' object is not iterable"
  | notIndexable t =>
    if t == "str" then "string indices must be integers, not 'str'"
    else if t == "list" then "list indices must be integers or slices, not str"
    else s!"'{t}' object is not subscriptable"
  | missingKey k => k
  | rule f => f.message
  | ruleText f => f.message
  | monthDay f => f.message
  | unknownFeast name => s!"Unknown anchor '{name}'. Available: " ++ feastNames
  | badOption option allowed v =>
    s!"{option} must be one of " ++ tupleText allowed ++ s!", got '{v.text}'"
  | unexpectedOption name =>
    s!"ExpansionConfig.__init__() got an unexpected keyword argument '{name}'"
  | badCategory v =>
    s!"category must be 'all' or one of ('historical', 'cultural'), got '{v.text}'"
  | tableYear table requested =>
    "Anchor table is for " ++ table.text ++ ", not " ++ requested.text
  | missingFile path => "[Errno 2] No such file or directory: " ++ Text.quote path
  | notJson reason => reason
  | plottingUnavailable => "Need numpy. Install: pip install \"caribalmanac[diagnostics]\""
  | notMapping t =>
    s!"caribalmanac.engines.config.ExpansionConfig() argument after ** must be a mapping, not {t}"
  | remainder t => s!"unsupported operand type(s) for %: '{t}' and 'int'"
  | textRemainder => "not all arguments converted during string formatting"
  | addition l r => s!"unsupported operand type(s) for +: '{l}' and '{r}'"
  | concatenation t => s!"can only concatenate {t} (not \"int\") to {t}"
  | outOfBounds what bounds v => s!"{what} must be in {bounds}, got " ++ v.text
  | indexType s t => s!"{s} indices must be integers or slices, not {t}"
  | notRelative id k => s!"Event '{id}' is a {k.name} event, not a relative one"
  | declaredRelative id => s!"Event '{id}' is relative; resolve it through the anchor table"
  | guardOutOfStep id => s!"anchor guard out of step leaving '{id}'"
  | dateOverflow => "date value out of range"
  | problem p => p.message

end Fault

end Almanac
