import Almanac.Report
import Almanac.Cli.Usage
import Almanac.Text.Sorted

/-!
# Month grids

A month grid shows one month of one year as weeks from Monday to Sunday, under a title line, a
line of weekday names and a rule. Every day has a cell six characters wide: the day's number on
the upper line, right-aligned in two places, and on the lower line a marker for the events of
that day: the capital initials of their categories, sorted and each once, followed by their
number when there are several. Cells before the first and after the last day are blank; lines
are trimmed at the right.

When events fall in the month, a blank line and one line per event follow: its date, its title
and its category in brackets.

The grid of December 9999 is not drawn: the days are stepped through up to the one after the
last, which the calendar does not have.
-/

namespace Almanac

namespace Cli

/-- The weekday names over the columns of a grid. -/
def weekdayHeader : String := "Mo     Tu     We     Th     Fr     Sa     Su"

/-- The width of a cell. -/
def cellWidth : Nat := 6

/-- A cell: its two lines cut and padded to the cell width. -/
def cell (top bottom : String) : String × String :=
  (padRight (String.ofList (top.toList.take cellWidth)) cellWidth,
    padRight (String.ofList (bottom.toList.take cellWidth)) cellWidth)

/-- The blank cell. -/
def blankCell : String × String := cell "" ""

/-- The marker of the events of one day. -/
def marker (events : List Occurrence) : String :=
  if events.isEmpty then ""
  else
    let initials := events.map fun e =>
      Text.upper (String.ofList (e.definition.category.toList.take 1))
    let kinds := String.join (Text.sortedDistinct initials)
    if events.length == 1 then kinds else kinds ++ toString events.length

/-- A day's number right-aligned in two places. -/
def dayNumberText (day : Int) : String :=
  let s := toString day
  spaces (2 - s.length) ++ s

/-- Groups cells into weeks of seven, padding the last week with blank cells. -/
def weeksOf : List (String × String) → Nat → List (List (String × String))
  | [], _ => []
  | cells, 0 => [cells]
  | cells, fuel + 1 =>
    let week := cells.take 7
    let rest := cells.drop 7
    if rest.isEmpty then [week ++ List.replicate (7 - week.length) blankCell]
    else week :: weeksOf rest fuel

/-- Removes spaces at the right end of a line. -/
def trimRight (s : String) : String :=
  String.ofList (s.toList.reverse.dropWhile Text.isBlank).reverse

/-- The two lines of a week: the upper and the lower texts of its cells, one space apart, each
trimmed at the right. -/
def weekLines (week : List (String × String)) : List String :=
  [trimRight (" ".intercalate (week.map (·.1))), trimRight (" ".intercalate (week.map (·.2)))]

/-- The line that lists an event: its date, its title and its category in brackets. -/
def eventLine (e : Occurrence) : String :=
  e.date.iso ++ "  " ++ e.definition.title ++ "  [" ++ e.definition.category ++ "]"

/-- The lines of a month grid of a country's events. The first of the month must be a date.
The days are stepped through one after another, and the step past the last day of the month
fails after December 9999, the end of the calendar. -/
def monthGrid (country : String) (year month : Int) (events : List Occurrence) :
    Except Fault (List String) := do
  let first ← (Date.make? year month 1).mapError .date
  if year = lastYear ∧ month = 12 then throw .dateOverflow
  let lead := first.weekday.toNat
  let days : List Int := (List.range (monthLength year month).toNat).map fun (i : Nat) => Int.ofNat i + 1
  let dayCell (d : Int) : String × String :=
    let onDay := events.filter fun e => e.date.key == (year, month, d)
    cell (dayNumberText d) (marker onDay)
  let cells := List.replicate lead blankCell ++ days.map dayCell
  let weeks := weeksOf cells (cells.length + 1)
  let title := country ++ "  " ++ monthName month ++ " " ++ toString year
  let rule := String.ofList (List.replicate weekdayHeader.length '-')
  let grid := weeks.flatMap weekLines
  let inMonth := events.filter fun e => e.date.year == year && e.date.month == month
  let listing := if inMonth.isEmpty then [] else "" :: inMonth.map eventLine
  pure ([title, weekdayHeader, rule] ++ grid ++ listing)

end Cli

end Almanac
