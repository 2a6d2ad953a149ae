import Almanac.Anchor.Table
import Almanac.Catalog.Basic
import Almanac.Log

/-!
# Expansion reports

Expanding a country's definitions for a year dates each of them in a fresh anchor table. The
year must be supported. Each id is expanded once, by its first definition, in the order of the
definitions: an id that names a feast is refused, and otherwise the id is resolved as an anchor
on its own behalf.

A data-integrity problem met while expanding an id is tagged with that id. Under the error
policy `raise` it ends the expansion; under `skip` the id is left out and the problem is kept as
a warning. Any other fault, such as a date that leaves the calendar, ends the expansion under
either policy. An id whose date is `none` does not occur that year and is left out silently.

The dated events are sorted by date, then by id. The expansion leaves debugging notes on ids
given twice, on ids that do not occur and on the count of dated events, and a warning note for
each skipped id; the notes written before a fault are kept with it.
-/

namespace Almanac

/-- An event dated in a year. -/
structure Occurrence where
  /-- The event's definition. -/
  definition : Definition
  /-- The year it was expanded for. -/
  year : Int
  /-- Its date, which may fall in a neighbouring year. -/
  date : Date

/-- Whether an occurrence sorts before or with another: by date, then by id. -/
def Occurrence.le (a b : Occurrence) : Bool :=
  a.date.before b.date || (a.date.key == b.date.key && decide (a.definition.id ≤ b.definition.id))

/-- An event an expansion left out, and the problem that made it. -/
structure Skipped where
  /-- The id of the event. -/
  eventId : String
  /-- The problem, tagged with the event. -/
  problem : Problem

/-- The events of a country dated in a year, and those left out. -/
structure Report where
  /-- The country code, as it was given. -/
  country : Value
  /-- The year. -/
  year : Int
  /-- The dated events, by date, then by id. -/
  events : List Occurrence := []
  /-- The events left out under the error policy `skip`, in order. -/
  warnings : List Skipped := []

/-- Whether a report left nothing out. -/
def Report.ok (r : Report) : Bool := r.warnings.isEmpty

/-- Notes and a result: the notes are kept whether the result is a fault or not. -/
abbrev Noted (α : Type) := List Note × Except Fault α

namespace Expansion

/-- The fault for a definition whose id names a feast. -/
def reservedFault (id : String) : Fault := .problem { cause := .malformed (.reservedId id) }

/-- Dates one definition: refuses an id that names a feast, then resolves the id as an anchor on
its own behalf. -/
def dateOf (t : AnchorTable) (ev : Definition) : AnchorTable × Except Fault (Option Date) :=
  if isFeastName ev.id then (t, .error (reservedFault ev.id))
  else t.resolve (.name ev.id) (some ev.id)

/-- The state of an expansion between two definitions. -/
structure Progress where
  /-- The anchor table. -/
  table : AnchorTable
  /-- The notes so far, in order. -/
  notes : List Note
  /-- The dated events so far, in order of expansion. -/
  events : List Occurrence
  /-- The events left out so far. -/
  warnings : List Skipped

/-- Expands the definitions in order. -/
def run (config : Config) (country : String) (year : Int) :
    Progress → List Definition → Noted Progress
  | p, [] => (p.notes, .ok p)
  | p, ev :: rest =>
    let (table, result) := dateOf p.table ev
    let p := { p with table }
    match result with
    | .ok none =>
      run config country year
        { p with notes := p.notes ++ [.debug .expansion s!"{ev.id} does not occur in {year}"] } rest
    | .ok (some d) =>
      run config country year { p with events := p.events ++ [⟨ev, year, d⟩] } rest
    | .error (.problem original) =>
      let problem := original.whileExpanding ev.id
      match config.onError with
      | .raise => (p.notes, .error (.problem (original.raisedWhileExpanding ev.id)))
      | .skip =>
        let note := Note.warning .expansion
          (s!"skipping {ev.id} for {country}/{year}: " ++ problem.message)
        run config country year
          { p with notes := p.notes ++ [note], warnings := p.warnings ++ [⟨ev.id, problem⟩] } rest
    | .error f => (p.notes, .error f)

end Expansion

namespace Catalog

/-- The definitions of a country code given as a value: a value that cannot be a key is
refused, and only a text names a country. -/
def eventsOf (c : Catalog) (code : Value) : Except Fault (List Definition) :=
  match code with
  | .str s => .ok (c.eventsFor s)
  | v => if v.isHashable then .ok [] else .error (.unhashable v.typeName)

/-- The report of a country's events in a year given as a value, with the notes left on the
way. -/
def expand (c : Catalog) (config : Config) (country : Value) (yearValue : Value) :
    Noted Report :=
  match checkYear yearValue with
  | .error f => ([], .error (.year f))
  | .ok year =>
    match c.eventsOf country with
    | .error f => ([], .error f)
    | .ok [] => ([.debug .expansion ("no events for country " ++ country.literal)],
        .ok { country, year })
    | .ok defs =>
      let (kept, dropped) := firstOfEach defs []
      let notes := dropped.map fun id => Note.debug .expansion s!"duplicate event id {id} ignored"
      let table := AnchorTable.empty (.int year) defs config.leapDay
      let start : Expansion.Progress := ⟨table, notes, [], []⟩
      match Expansion.run config country.text year start kept with
      | (notes, .error f) => (notes, .error f)
      | (notes, .ok p) =>
        let events := p.events.mergeSort Occurrence.le
        let note := Note.debug .expansion
          (s!"expanded {events.length} events for " ++ country.text ++ s!"/{year}")
        (notes ++ [note], .ok { country, year, events, warnings := p.warnings })

end Catalog

end Almanac
