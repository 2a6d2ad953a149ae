import Almanac.Cli.Commands
import Almanac.Cli.Parse
import Almanac.Cli.Usage
import Almanac.Cli.MonthGrid
import Almanac.Cli.FeastTable
import Almanac.Query
import Almanac.Validation
import Almanac.Catalog.Packaged
import Almanac.Value.Json

/-!
# Running the command line

A run reads the words of the command line and writes to the two output streams; it ends with an
exit code, or with a fault that the command line does not catch. A word list whose first word is
a four-digit year asks for Ash Wednesday of the years given. Otherwise the top-level command
takes its options and the name of a subcommand, and the subcommand parses the rest.

A help request prints the help page and ends with code 0. Words that do not fit end with the
usage line and an error line on the error stream and code 2. A range or month out of bounds
ends with its message on the error stream and code 1. A data-integrity problem ends with
`error: ` and its message on the error stream and code 2; every other fault is not caught.

Notes of the library are written to the error stream as `LEVEL logger: text`: warnings always,
debugging notes when `-v` is given. A run that names a dataset file waits for its contents; the
packaged dataset is used when none is named.
-/

namespace Almanac

namespace Cli

/-- Text written to the output stream and the error stream. -/
structure Console where
  /-- The output stream. -/
  out : String := ""
  /-- The error stream. -/
  err : String := ""

namespace Console

/-- Writes a line to the output stream. -/
def say (c : Console) (line : String) : Console := { c with out := c.out ++ line ++ "\n" }

/-- Writes a line to the error stream. -/
def complain (c : Console) (line : String) : Console := { c with err := c.err ++ line ++ "\n" }

/-- The name of a level in notes. -/
def levelName : Level → String
  | .debug => "DEBUG"
  | .warning => "WARNING"

/-- The logger that writes the notes of a part of the library. -/
def loggerName : Source → String
  | .loader => "caribalmanac.data.loader"
  | .expansion => "caribalmanac.engines.expansion"
  | .api => "caribalmanac.api"

/-- Writes the notes that the verbosity lets through. -/
def log (c : Console) (verbose : Bool) (notes : List Note) : Console :=
  notes.foldl (fun c n =>
    if n.level == .warning || verbose then
      c.complain (levelName n.level ++ " " ++ loggerName n.source ++ ": " ++ n.text)
    else c) c

end Console

/-- How a run ends. -/
inductive Ending where
  /-- With an exit code. -/
  | exit (code : Nat)
  /-- With a fault the command line does not catch. -/
  | uncaught (f : Fault)

/-- What a run wrote, and how it ended. -/
structure Outcome where
  /-- The text written. -/
  console : Console
  /-- How the run ended. -/
  ending : Ending

/-- A run, finished or waiting for the contents of a dataset file. -/
inductive Run where
  /-- The run is over. -/
  | done (o : Outcome)
  /-- The run needs the dataset in a file, or the fault of reading it. -/
  | load (path : String) (next : Except Fault Value → Run)

/-- Finishes a run, reading dataset files with a reader. -/
def Run.finish (read : String → Except Fault Value) : Run → Outcome
  | .done o => o
  | .load path next => (next (read path)).finish read

/-- The end of a run that stopped while parsing. -/
def stopped (s : Spec) (c : Console) : Stop → Outcome
  | .help => ⟨{ c with out := c.out ++ helpPage s }, .exit 0⟩
  | .error m => ⟨{ c with err := c.err ++ usage s ++ s.prog ++ ": error: " ++ m ++ "\n" }, .exit 2⟩

/-- The end of a run that gave up with a message. -/
def gaveUp (c : Console) (message : String) : Outcome := ⟨c.complain message, .exit 1⟩

/-- The end of a run that met a fault: a data-integrity problem is reported, others are not
caught. -/
def failed (c : Console) : Fault → Outcome
  | .problem p => ⟨c.complain ("error: " ++ p.message), .exit 2⟩
  | f => ⟨c, .uncaught f⟩

/-- Parses the words of a subcommand and goes on with the values. -/
def withArgs (s : Spec) (words : List String) (k : Parsed → Run) : Run :=
  match s.parse words with
  | .error stop => .done (stopped s {} stop)
  | .ok args => k args

/-- The number of countries a dataset lists. -/
def listedCountries (raw : Value) : Nat :=
  match (raw.fieldD "countries" (.list [])).members with
  | .ok cs => cs.length
  | .error _ => 0

/-- Goes on with the catalog of the named dataset file, or the packaged one when none is
named. -/
def withCatalog (c : Console) (verbose : Bool) (path : String) (k : Console → Catalog → Outcome) :
    Run :=
  if path.isEmpty then
    match Catalog.packaged with
    | .ok catalog => .done (k c catalog)
    | .error f => .done (failed c f)
  else
    let c := c.log verbose [.debug .loader s!"loading dataset from {path}"]
    .load path fun raw =>
      match raw with
      | .error f => .done (failed c f)
      | .ok raw =>
        match Catalog.load raw with
        | .error f => .done (failed c f)
        | .ok catalog =>
          let count := catalog.groups.foldl (fun n g => n + g.2.length) 0
          let c := c.log verbose [.debug .loader
            s!"parsed {count} event definitions for {listedCountries raw} countries"]
          .done (k c catalog)

/-- The options of an expansion from parsed values. -/
def configOf (args : Parsed) : Config :=
  { leapDay := if args.text "leap_day" == "skip" then .skip else .clamp
    onError := if args.text "on_error" == "skip" then .skip else .raise }

/-- The declaration of an event as the table of `expand` shows it. -/
def declarationText (ev : Definition) : String :=
  match ev.declaration? with
  | .ok (.fixed md) => "fixed " ++ md.text
  | .ok (.rule r) => "rule " ++ r.format
  | .ok (.relative rel) =>
    rel.anchor.text ++ " " ++ (if rel.offset ≥ 0 then "+" else "-") ++
      toString rel.offset.natAbs ++ "d"
  | .error _ => ""

/-- An expanded event as a record. -/
def occurrenceRecord (o : Occurrence) : Value :=
  let ev := o.definition
  .record [
    ("id", .str ev.id), ("country_code", .str ev.country), ("title", .str ev.title),
    ("category", .str ev.category), ("tags", .list (ev.tags.map .str)),
    ("description", .str ev.description), ("location", .str ev.location),
    ("sources", .list (ev.sources.map .str)), ("year", .int o.year), ("date", .str o.date.iso)]

/-- The `expand` subcommand. -/
def expandCommand (verbose : Bool) (words : List String) : Run :=
  withArgs expandSpec words fun args =>
    withCatalog {} verbose (args.text "dataset") fun c catalog =>
      let country := args.text "country"
      let year := args.int "year"
      let (notes, report) := catalog.expand (configOf args) (.str country) (.int year)
      let c := c.log verbose notes
      match report with
      | .error f => failed c f
      | .ok r =>
        let tags := Value.list ((args.texts "tag").map .str)
        match Filter.ofValues? (.str (args.text "category")) tags (.str (args.text "search")) with
        | .error f => failed c f
        | .ok filter =>
          let events := Occurrence.filtered r.events filter
          if args.flag "json" then
            let doc := Value.record [("country_code", .str country), ("year", .int year),
              ("events", .list (events.map occurrenceRecord)),
              ("warnings", .list (r.warnings.map fun w =>
                .record [("event_id", .str w.eventId), ("message", .str w.problem.message)]))]
            ⟨c.say (doc.toJsonIndented 2), .exit 0⟩
          else
            let c := if events.isEmpty then c.say s!"No events for {country} in {year}." else c
            let c := events.foldl (fun c e =>
              let ev := e.definition
              c.say (e.date.iso ++ "  " ++ padRight ev.title 42 ++ "  " ++ padRight ev.category 10 ++
                "  " ++ declarationText ev)) c
            let c := r.warnings.foldl (fun c w => c.complain ("warning: " ++ w.problem.message)) c
            ⟨c, .exit 0⟩

/-- Prints Ash Wednesday, and Easter when asked, for each year in turn. -/
def ashLines (c : Console) (easter : Bool) : List Int → Outcome
  | [] => ⟨c, .exit 0⟩
  | y :: rest =>
    match ashWednesdayIn y with
    | .error f => failed c f
    | .ok ash =>
      let line := s!"{y}  " ++ ash.iso
      if easter then
        match easterIn y with
        | .error f => failed c f
        | .ok e => ashLines (c.say (line ++ "  easter " ++ e.iso)) easter rest
      else ashLines (c.say line) easter rest

/-- The `ash-wednesday` subcommand. -/
def ashWednesdayCommand (words : List String) : Run :=
  withArgs ashWednesdaySpec words fun args =>
    .done (ashLines {} (args.flag "easter") (args.ints "years"))

/-- The `countries` subcommand. -/
def countriesCommand (verbose : Bool) (words : List String) : Run :=
  withArgs countriesSpec words fun args =>
    withCatalog {} verbose (args.text "dataset") fun c catalog =>
      ⟨catalog.sortedCountries.foldl (fun c k => c.say (k.code ++ "  " ++ k.name)) c, .exit 0⟩

/-- Adds a year to the group of a country and message, keeping groups in order of first
appearance. -/
def addFinding (groups : List ((String × String) × List Int)) (f : Finding) :
    List ((String × String) × List Int) :=
  let key := (f.country, f.problem.message)
  if groups.any (·.1 == key) then groups.map fun g => if g.1 == key then (g.1, g.2 ++ [f.year]) else g
  else groups ++ [(key, [f.year])]

/-- The years of a group as the validation report shows them. -/
def yearSpan (years : List Int) : String :=
  match years with
  | [y] => toString y
  | y :: _ =>
    let lastYear := years.getLastD y
    s!"{y}..{lastYear} ({years.length} years)"
  | [] => ""

/-- The `validate` subcommand. -/
def validateCommand (verbose : Bool) (words : List String) : Run :=
  withArgs validateSpec words fun args =>
    let first := args.int "from_year"
    let last := args.int "to_year"
    if last < first then .done (gaveUp {} "--to-year must be >= --from-year")
    else
      let config : Config := { leapDay := (configOf args).leapDay }
      withCatalog {} verbose (args.text "dataset") fun c catalog =>
        let years := (List.range (last - first + 1).toNat).map fun (i : Nat) => Value.int (first + Int.ofNat i)
        let (notes, result) := catalog.validate config years
        let c := c.log verbose notes
        match result with
        | .error f => failed c f
        | .ok [] => ⟨c.say s!"Dataset OK for {first}..{last}.", .exit 0⟩
        | .ok found =>
          let groups := (found.foldl addFinding []).mergeSort fun a b =>
            decide (a.1.1 < b.1.1 ∨ (a.1.1 = b.1.1 ∧ a.1.2 ≤ b.1.2))
          let c := groups.foldl (fun c g =>
            c.say (g.1.1 ++ "  " ++ yearSpan g.2 ++ "  " ++ g.1.2)) c
          ⟨c.say s!"\n{found.length} problem(s).", .exit 1⟩

/-- The month-grid tool. -/
def monthCommand (tool : String) (verbose : Bool) (words : List String) : Run :=
  withArgs (monthSpec tool) words fun args =>
    let month := args.int "month"
    if ¬(1 ≤ month ∧ month ≤ 12) then .done (gaveUp {} "month must be in 1..12")
    else
      withCatalog {} verbose (args.text "dataset") fun c catalog =>
        let country := args.text "country"
        let year := args.int "year"
        let config : Config := { leapDay := (configOf args).leapDay }
        let (notes, report) := catalog.expand config (.str country) (.int year)
        let c := c.log verbose notes
        match report with
        | .error f => failed c f
        | .ok r =>
          match monthGrid country year month r.events with
          | .ok lines => ⟨c.say ("\n".intercalate lines), .exit 0⟩
          | .error f => failed c f

/-- Prints the rows of the feast table, and collects the years' Ash Wednesdays in a month. -/
def tableRows (c : Console) (style : DateStyle) (month : Int) :
    List Int → List Date → Except (Console × Fault) (Console × List Date)
  | [], hits => .ok (c, hits)
  | y :: rest, hits =>
    match tableRow style y with
    | .error f => .error (c, f)
    | .ok row =>
      let c := c.say row
      match ashWednesdayIn y with
      | .error f => .error (c, f)
      | .ok ash => tableRows c style month rest (if ash.month == month then hits ++ [ash] else hits)

/-- The feast-table tool. -/
def tableCommand (tool : String) (words : List String) : Run :=
  withArgs (tableSpec tool) words fun args =>
    let first := args.int "from_year"
    let last := args.int "to_year"
    let month := args.int "list_month"
    let style := if args.text "dates" == "iso" then DateStyle.iso else .monthDay
    if last < first then .done (gaveUp {} "--to-year must be >= --from-year")
    else
      let heading := tableHeading style
      let c : Console := ({} : Console).say heading |>.say
        (String.ofList (List.replicate heading.length '-'))
      let years := (List.range (last - first + 1).toNat).map fun (i : Nat) => first + Int.ofNat i
      match tableRows c style month years [] with
      | .error (c, f) => .done (failed c f)
      | .ok (c, hits) =>
        let c := c.say ("\nAsh Wednesday occurrences in month=" ++ zeroPadded 2 month ++ ":")
        if hits.isEmpty then .done ⟨c.say "(none)", .exit 0⟩
        else .done ⟨hits.foldl (fun c d => c.say d.iso) c, .exit 0⟩

/-- The plotting tool: its options are read, but plotting is not available. -/
def scatterCommand (tool : String) (words : List String) : Run :=
  withArgs (scatterSpec tool) words fun args =>
    if args.int "end_year" < args.int "start_year" then
      .done (gaveUp {} "--end-year must be >= --start-year")
    else .done (failed {} .plottingUnavailable)

/-- Whether a word is a year given alone: four decimal digits, and at most a line break
after them. -/
def isYearWord (w : String) : Bool :=
  let cs := w.toList
  let cs := if cs.getLast? == some '\n' then cs.dropLast else cs
  cs.length == 4 && cs.all Text.isDigit

/-- Runs the command line on its words; `tool` is the name the program was started under. -/
def run (tool : String) (words : List String) : Run :=
  match words with
  | first :: _ =>
    if isYearWord first then ashWednesdayCommand words else dispatch
  | [] => dispatch
where
  /-- Reads the top-level options and runs the subcommand. -/
  dispatch : Run :=
    match mainSpec.parseKnown words with
    | .error stop => .done (stopped mainSpec {} stop)
    | .ok (args, rest) =>
      let verbose := args.flag "verbose"
      match args.text "cmd" with
      | "expand" => expandCommand verbose rest
      | "ash-wednesday" => ashWednesdayCommand rest
      | "countries" => countriesCommand verbose rest
      | "validate" => validateCommand verbose rest
      | "month" => monthCommand tool verbose rest
      | "ash-table" => tableCommand tool rest
      | _ => scatterCommand tool rest

end Cli

end Almanac
