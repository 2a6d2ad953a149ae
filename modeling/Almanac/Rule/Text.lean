import Almanac.Rule.Resolve
import Almanac.Text.CaseMap
import Almanac.Text.Numeral

/-!
# Recurrence texts

Rules are written as yearly recurrence texts such as `FREQ=YEARLY;BYMONTH=8;BYDAY=1MO`,
`FREQ=YEARLY;BYMONTH=5;BYDAY=-1MO` or `FREQ=YEARLY;BYMONTH=10;BYDAY=MO;BYSETPOS=2`.

Reading a text goes as follows. Blanks around the text are dropped, and so is a leading
`RRULE:` in any case. The rest is split at `;` into parts; blank parts are skipped, every
other part must hold `=`, and splits at its first `=` into a name and a value, both trimmed and
upper-cased; a name given twice keeps its last value. Then:

1. `FREQ` must be `YEARLY`;
2. `INTERVAL`, if given, must be `1`; `WKST` is ignored;
3. `BYMONTH` and `BYDAY` must both be given, and `BYMONTH` must be a numeral;
4. `BYDAY` is an optional ordinal (a sign and one or two digits) and a two-letter weekday code;
5. the ordinal comes from `BYDAY`, or else from `BYSETPOS`, but not from both; an empty or
   missing `BYSETPOS` means 1; -1 means the last occurrence, and no other number below 1 is
   allowed;
6. no other part may be given;
7. month, weekday and ordinal must make a rule.

The first step that fails decides the fault. `Rule.format` writes texts that read back as the
same rule.
-/

namespace Almanac

namespace Rule

/-- The weekday a two-letter code stands for. -/
def weekdayOfCode? : List Char → Option Int
  | ['M', 'O'] => some 0
  | ['T', 'U'] => some 1
  | ['W', 'E'] => some 2
  | ['T', 'H'] => some 3
  | ['F', 'R'] => some 4
  | ['S', 'A'] => some 5
  | ['S', 'U'] => some 6
  | _ => none

/-- Splits the day part into its optional ordinal text (a sign and one or two digits) and the
weekday of its code; `none` when the part has another form. -/
def splitDay (cs : List Char) : Option (Option String × Int) :=
  let (sign, rest) := match cs with
    | '+' :: r => (['+'], r)
    | '-' :: r => (['-'], r)
    | r => ([], r)
  match rest with
  | d₁ :: d₂ :: code =>
    if Text.isDigit d₁ then
      if Text.isDigit d₂ then
        (weekdayOfCode? code).map fun w => (some (String.ofList (sign ++ [d₁, d₂])), w)
      else (weekdayOfCode? (d₂ :: code)).map fun w => (some (String.ofList (sign ++ [d₁])), w)
    else if sign.isEmpty then (weekdayOfCode? rest).map fun w => (none, w)
    else none
  | _ => none

/-- A part split at its first `=` into its trimmed, upper-cased name and value. -/
def splitPart (item : String) : Option (String × String) :=
  let key := item.toList.takeWhile (· != '=')
  match item.toList.dropWhile (· != '=') with
  | [] => none
  | _ :: rest =>
    some (Text.upper (Text.trimBlank (String.ofList key)), Text.upper (Text.trimBlank (String.ofList rest)))

/-- Sets a named part: a name already present keeps its place and takes the new value. -/
def setPart (parts : List (String × String)) (k v : String) : List (String × String) :=
  if parts.any (·.1 == k) then parts.map fun p => if p.1 == k then (k, v) else p
  else parts ++ [(k, v)]

/-- The named parts of a recurrence body added to `acc`, a later name replacing the value of
an earlier one; or the first part that has no `=`. -/
def namedParts (text : String) :
    List String → List (String × String) → Except RuleTextFault (List (String × String))
  | [], acc => pure acc
  | raw :: rest, acc =>
    let item := Text.trimBlank raw
    if item.isEmpty then namedParts text rest acc
    else match splitPart item with
      | some (k, v) => namedParts text rest (setPart acc k v)
      | none => throw (.malformedPart item text)

/-- The value of a named part. -/
def lookupPart (parts : List (String × String)) (k : String) : Option String :=
  (parts.find? (·.1 == k)).map (·.2)

/-- The parts without the one of a name. -/
def dropPart (parts : List (String × String)) (k : String) : List (String × String) :=
  parts.filter (·.1 != k)

/-- The body of a recurrence text: trimmed, and without a leading `RRULE:` of any case. -/
def body (text : String) : String :=
  let t := Text.trimBlank text
  if (Text.upper t).startsWith "RRULE:" then String.ofList (t.toList.drop 6) else t

/-- The rule a recurrence text writes, or the first fault in it. -/
def parse (text : String) : Except RuleTextFault Rule := do
  let parts ← namedParts text (((body text).toList.splitOn ';').map String.ofList) []
  if lookupPart parts "FREQ" != some "YEARLY" then throw (.notYearly text)
  let parts := dropPart parts "FREQ"
  if (lookupPart parts "INTERVAL").getD "1" != "1" then throw (.interval text)
  let parts := dropPart (dropPart parts "INTERVAL") "WKST"
  let monthText ← match lookupPart parts "BYMONTH" with
    | some v => pure v
    | none => throw (.needsMonthAndDay text)
  let month ← match Text.readInt? monthText with
    | some m => pure m
    | none => throw (.monthNotNumber text)
  let parts := dropPart parts "BYMONTH"
  let dayText ← match lookupPart parts "BYDAY" with
    | some v => pure v
    | none => throw (.needsMonthAndDay text)
  let parts := dropPart parts "BYDAY"
  let (ordinalText, weekday) ← match splitDay dayText.toList with
    | some r => pure r
    | none => throw (.dayNotWeekday text)
  let setPos := lookupPart parts "BYSETPOS"
  let parts := dropPart parts "BYSETPOS"
  if ordinalText.isSome && setPos.isSome then throw (.ordinalTwice text)
  let literal := match ordinalText, setPos with
    | some t, _ => t
    | none, some p => if p.isEmpty then "1" else p
    | none, none => "1"
  let ordinal ← match Text.readInt? literal with
    | some o => pure o
    | none => throw (.numeral literal)
  if ordinal != -1 && ordinal < 1 then throw (.ordinalNotPositive text)
  if !parts.isEmpty then
    throw (.unsupported ((parts.map (·.1)).mergeSort fun a b => decide (a ≤ b)) text)
  (make? month weekday ordinal).mapError .range

/-- The rule a recurrence text given as a value writes; a value that is not a text cannot be
trimmed. -/
def parseValue : Value → Except Fault Rule
  | .str text => (parse text).mapError .ruleText
  | v => .error (.noAttribute v.typeName "strip")

end Rule

end Almanac
