import Almanac.Text.Blank
import Almanac.Text.Digit
import Almanac.Text.Printable
import Almanac.Text.Cased
import Almanac.Text.CaseMap
import Almanac.Text.Quoted
import Almanac.Text.Numeral
import Almanac.Text.Sorted
import Almanac.Decimal.Shortest
import Almanac.Value.Basic
import Almanac.Value.Literal
import Almanac.Value.Json
import Almanac.Calendar.Basic
import Almanac.Calendar.Date
import Almanac.Calendar.DayNumber
import Almanac.Calendar.Year
import Almanac.Calendar.Easter
import Almanac.Calendar.Feast
import Almanac.Rule.Basic
import Almanac.Event.Basic
import Almanac.Fault
import Almanac.Calendar.Lookup
import Almanac.Calendar.Arguments
import Almanac.Rule.Resolve
import Almanac.Rule.Given
import Almanac.Rule.Text
import Almanac.Event.Record
import Almanac.Catalog.Basic
import Almanac.Catalog.Packaged
import Almanac.Value.Equality
import Almanac.Config
import Almanac.Log
import Almanac.Anchor.Table
import Almanac.Report
import Almanac.Query
import Almanac.Validation
import Almanac.Text.Wrap
import Almanac.Cli.Spec
import Almanac.Cli.Usage
import Almanac.Cli.Parse
import Almanac.Cli.MonthGrid
import Almanac.Cli.FeastTable
import Almanac.Cli.Commands
import Almanac.Cli.Run
import Almanac.Main
import Almanac.Proofs.Calendar.Supported
import Almanac.Proofs.Calendar.DayNumber
import Almanac.Proofs.Calendar.Easter
import Almanac.Proofs.Rule.Resolve
import Almanac.Proofs.Anchor.Lookup
import Almanac.Proofs.Anchor.Walk
import Almanac.Proofs.Anchor.Memo
import Almanac.Proofs.Anchor.LeapDay
import Almanac.Proofs.Anchor.Steps
import Almanac.Proofs.Anchor.Chain
import Almanac.Proofs.Expansion.Collect
import Almanac.Proofs.Expansion.Report
import Almanac.Proofs.Anchor.Confined
import Almanac.Proofs.Expansion.Raise
import Almanac.Proofs.Expansion.Faults
import Almanac.Proofs.Catalog.Load
import Almanac.Proofs.Anchor.LeapPolicy
import Almanac.Proofs.Expansion.LeapPolicy
import Almanac.Proofs.Catalog.Validate
import Almanac.Proofs.Rule.Text
import Almanac.Proofs.Cli.MonthGrid
