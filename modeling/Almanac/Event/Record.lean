import Almanac.Rule.Text

/-!
# Event records

Reading a definition from its record in a dataset. A record has the fields `id`,
`country_code`, `category`, `title`, `fixed_date` (`MM-DD`), `rrule` (a recurrence text),
`relative_to` and `offset_days`, `tags`, `description`, `location` and `sources`.

The checks run in a fixed order, and the first that fails decides:

1. the id must be a non-empty text, and must not name a well-known feast;
2. the category must be `historical` or `cultural`;
3. the country code must be a non-empty text;
4. a fixed date, a recurrence text and an anchor count as declared when their fields are true
   values; a declared fixed date must be `MM-DD` with numerals that make a month and day, and a
   declared recurrence text must read as a rule;
5. the offset (zero when false or missing) must be an integer proper;
6. tags and sources must be lists, or missing; their items are kept as texts;
7. exactly one kind must be declared.

Title, description and location are kept as the text of whatever value they hold. An anchor
reference is kept with older spellings of feast names replaced.
-/

namespace Almanac

namespace Record

/-- A record's field, `null` when missing. -/
def get (rec : Value) (name : String) : Value := rec.fieldD name .null

/-- The month and day of a fixed-date text `MM-DD`. -/
def monthDayOfText (text : String) : Except FixedDateFault MonthDay := do
  match text.splitOn "-" with
  | [m, d] =>
    let m ← match Text.readInt? m with
      | some n => pure n
      | none => throw (.numeral m)
    let d ← match Text.readInt? d with
      | some n => pure n
      | none => throw (.numeral d)
    (MonthDay.make? m d).mapError .range
  | parts => throw (.parts parts.length)

/-- A list of texts from a list field: missing is empty; a text or a value that is not a list
is refused; items are kept as their texts. -/
def textList (v : Value) : Option (List String) :=
  match v with
  | .null => some []
  | .list items => some (items.map Value.text)
  | _ => none

/-- A field fault of a definition. -/
def fieldFault (id : String) (f : FieldFault) : Fault :=
  .problem { cause := .malformed (.field id f) }

/-- The id of a record: a non-empty text that names no feast. -/
def idOf (rec : Value) : Except Fault String :=
  match rec, get rec "id" with
  | .record _, .str s =>
    if s.isEmpty then .error (.problem { cause := .malformed (.noUsableId rec) })
    else if isFeastName s then .error (.problem { cause := .malformed (.reservedId s) })
    else .ok s
  | .record _, _ => .error (.problem { cause := .malformed (.noUsableId rec) })
  | v, _ => .error (.noAttribute v.typeName "get")

/-- The category of a record: `historical` or `cultural`. -/
def categoryOf (rec : Value) (id : String) : Except Fault String :=
  match get rec "category" with
  | .str "historical" => pure "historical"
  | .str "cultural" => pure "cultural"
  | v => throw (fieldFault id (.category v))

/-- The country code of a record: a non-empty text. -/
def countryOf (rec : Value) (id : String) : Except Fault String :=
  match get rec "country_code" with
  | .str s => if s.isEmpty then throw (fieldFault id .missingCountry) else pure s
  | _ => throw (fieldFault id .missingCountry)

/-- The fixed date of a record, declared when its field is a true value. -/
def fixedOf (rec : Value) (id : String) : Except Fault (Option MonthDay) :=
  let fixedRaw := get rec "fixed_date"
  if fixedRaw.truthy then
    match fixedRaw with
    | .str text => match monthDayOfText text with
      | .ok md => pure (some md)
      | .error e => throw (fieldFault id (.fixedDate text e))
    | v => throw (Fault.noAttribute v.typeName "split")
  else pure none

/-- The recurrence rule of a record, declared when its field is a true value. -/
def ruleOf (rec : Value) (id : String) : Except Fault (Option Rule) :=
  let ruleRaw := get rec "rrule"
  if ruleRaw.truthy then
    match ruleRaw with
    | .str text => match Rule.parse text with
      | .ok r => pure (some r)
      | .error e => throw (fieldFault id (.rule e))
    | v => throw (Fault.noAttribute v.typeName "strip")
  else pure none

/-- The offset of a record: zero when its field is false or missing, else an integer proper. -/
def offsetOf (rec : Value) (id : String) : Except Fault Int :=
  let offsetRaw := get rec "offset_days"
  if offsetRaw.truthy then
    match offsetRaw with
    | .int n => pure n
    | v => throw (fieldFault id (.offset v))
  else pure 0

/-- The distance of a record from its anchor, declared when the anchor field is a true value;
the anchor must be able to serve as a key. -/
def relativeOf (rec : Value) (offset : Int) : Except Fault (Option Relative) :=
  let anchorRaw := get rec "relative_to"
  if anchorRaw.truthy then
    if anchorRaw.isHashable then pure (some ⟨(AnchorRef.ofValue anchorRaw).normalize, offset⟩)
    else throw (Fault.unhashable anchorRaw.typeName)
  else pure none

/-- A list-of-texts field of a record. -/
def textsOf (rec : Value) (id field : String) : Except Fault (List String) :=
  match textList (get rec field) with
  | some ts => pure ts
  | none => throw (fieldFault id (.notStrings field))

/-- The definition a record describes. -/
def toDefinition (rec : Value) : Except Fault Definition := do
  let id ← idOf rec
  let category ← categoryOf rec id
  let country ← countryOf rec id
  let fixed ← fixedOf rec id
  let rule ← ruleOf rec id
  let offset ← offsetOf rec id
  let relative ← relativeOf rec offset
  let tags ← textsOf rec id "tags"
  let sources ← textsOf rec id "sources"
  let ev : Definition :=
    { id, country, category
      title := (rec.fieldD "title" (.str "")).text
      fixed, rule, relative, tags
      description := (rec.fieldD "description" (.str "")).text
      location := (rec.fieldD "location" (.str "")).text
      sources }
  match ev.kind? with
  | .ok _ => pure ev
  | .error ks => throw (.problem { cause := .malformed (.declarations id ks) })

end Record

end Almanac
