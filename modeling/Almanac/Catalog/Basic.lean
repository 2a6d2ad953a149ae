import Almanac.Event.Record

/-!
# Catalogs

A catalog holds the definitions of a dataset grouped by country, and the countries to list.
The definitions of a country keep the order of the dataset. The countries are those the dataset
lists, in its order, followed by every country that has definitions but is not listed, named by
its code, in the order of the codes.

Loading a dataset reads its `events`, then its `countries`; both default to empty. Every record
must make a definition, and no id may occur twice in the whole dataset. A country record needs a
`code` and a `name`, kept as texts.
-/

namespace Almanac

/-- Definitions grouped by country, and the countries to list. -/
structure Catalog where
  /-- The definitions of each country code, codes in the order of their first definition. -/
  groups : List (String × List Definition)
  /-- The countries to list, in order. -/
  countries : List Country
  deriving Inhabited

namespace Catalog

/-- The definitions of a country, in dataset order; none for an unknown code. -/
def eventsFor (c : Catalog) (code : String) : List Definition :=
  ((c.groups.find? (·.1 == code)).map (·.2)).getD []

/-- The codes of the countries that have definitions, sorted. -/
def codes (c : Catalog) : List String :=
  (c.groups.map (·.1)).mergeSort fun a b => decide (a ≤ b)

/-- Adds a definition at the end of its country's group. -/
def addToGroup (groups : List (String × List Definition)) (ev : Definition) :
    List (String × List Definition) :=
  if groups.any (·.1 == ev.country) then
    groups.map fun g => if g.1 == ev.country then (g.1, g.2 ++ [ev]) else g
  else groups ++ [(ev.country, [ev])]

/-- The catalog of definitions and listed countries: unlisted countries with definitions are
appended, named by their codes, in code order. -/
def ofDefinitions (defs : List Definition) (countries : List Country) : Catalog :=
  let groups := defs.foldl addToGroup []
  let listed := countries.map (·.code)
  let codes := (groups.map (·.1)).mergeSort fun a b => decide (a ≤ b)
  let extra := (codes.filter fun code => !listed.contains code).map fun code => ⟨code, code⟩
  ⟨groups, countries ++ extra⟩

/-- The countries sorted by name, then code. -/
def sortedCountries (c : Catalog) : List Country :=
  c.countries.mergeSort fun a b => decide (a.name < b.name ∨ (a.name = b.name ∧ a.code ≤ b.code))

end Catalog

/-- The members of a collection value, in order: the items of a list, the field names of a
record, the characters of a text. -/
def Value.members : Value → Except Fault (List Value)
  | .list items => .ok items
  | .record fields => .ok (fields.map fun f => .str f.1)
  | .str s => .ok (s.toList.map fun c => .str (String.singleton c))
  | v => .error (.notIterable v.typeName)

/-- A required field of a country record. -/
def Value.index (v : Value) (name : String) : Except Fault Value :=
  match v with
  | .record _ =>
    match v.field? name with
    | some x => .ok x
    | none => .error (.missingKey name)
  | v => .error (.notIndexable v.typeName)

namespace Catalog

/-- Reads definitions from records in order, refusing an id already read. -/
def readDefinitions : List Value → List String → Except Fault (List Definition)
  | [], _ => .ok []
  | rec :: rest, seen => do
    let ev ← Record.toDefinition rec
    if seen.contains ev.id then throw (.problem { cause := .malformed (.duplicate ev.id) })
    let more ← readDefinitions rest (ev.id :: seen)
    pure (ev :: more)

/-- The catalog of a dataset. -/
def load (raw : Value) : Except Fault Catalog := do
  match raw with
  | .record _ => pure ()
  | v => throw (Fault.noAttribute v.typeName "get")
  let records ← (raw.fieldD "events" (.list [])).members
  let defs ← readDefinitions records []
  let countryRecords ← (raw.fieldD "countries" (.list [])).members
  let countries ← countryRecords.mapM fun c => do
    let code ← c.index "code"
    let name ← c.index "name"
    pure (⟨code.text, name.text⟩ : Country)
  pure (ofDefinitions defs countries)

end Catalog

end Almanac
