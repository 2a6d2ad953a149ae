import Almanac.Calendar.Lookup
import Almanac.Cli.Usage

/-!
# Tables of moveable feasts

A table lists, for each year of a range, the dates of Carnival Monday (two days before Ash
Wednesday), Ash Wednesday, Good Friday (two days before Easter), Easter Sunday and Whit Monday
(fifty days after Easter), as `MM-DD` or as full dates. Each column is as wide as the wider of
its heading and a date, the year column five places, and columns are separated by two spaces.
After the table come the years whose Ash Wednesday falls in a chosen month.
-/

namespace Almanac

namespace Cli

/-- How the dates of a table are written. -/
inductive DateStyle where
  /-- `MM-DD`. -/
  | monthDay
  /-- `YYYY-MM-DD`. -/
  | iso
  deriving DecidableEq, Repr

/-- A date as a table writes it. -/
def DateStyle.show : DateStyle → Date → String
  | .monthDay, d => d.monthDayText
  | .iso, d => d.iso

/-- The width of a date in a style. -/
def DateStyle.width : DateStyle → Nat
  | .monthDay => 5
  | .iso => 10

/-- A column of the table: its heading and the date it gives for a year. -/
structure Column where
  /-- The heading. -/
  heading : String
  /-- The date in a year. -/
  dateIn : Int → Except Fault Date

/-- A date some days from a feast. -/
def fromFeast (f : Int → Except Fault Date) (days : Int) (y : Int) : Except Fault Date := do
  let d ← f y
  (d.addDays? days).mapError .date

/-- Ash Wednesday of a year. -/
def ashWednesdayIn (y : Int) : Except Fault Date := ashWednesdayOf (.int y)

/-- Easter Sunday of a year. -/
def easterIn (y : Int) : Except Fault Date := easterOf (.int y)

/-- The columns of the table. -/
def feastColumns : List Column := [
  ⟨"Carnival Mon", fromFeast ashWednesdayIn (-2)⟩,
  ⟨"Ash Wed", ashWednesdayIn⟩,
  ⟨"Good Fri", fromFeast easterIn (-2)⟩,
  ⟨"Easter", easterIn⟩,
  ⟨"Whit Mon", fromFeast easterIn 50⟩]

/-- The width of the year column. -/
def yearWidth : Nat := 5

/-- The widths of the date columns in a style. -/
def columnWidths (style : DateStyle) : List Nat :=
  feastColumns.map fun c => max style.width c.heading.length

/-- The heading line of the table. -/
def tableHeading (style : DateStyle) : String :=
  "  ".intercalate (padRight "Year" yearWidth ::
    (feastColumns.zip (columnWidths style)).map fun (c, w) => padRight c.heading w)

/-- The line of the table for a year. -/
def tableRow (style : DateStyle) (y : Int) : Except Fault String := do
  let cells ← (feastColumns.zip (columnWidths style)).mapM fun (c, w) => do
    let d ← c.dateIn y
    pure (padRight (style.show d) w)
  pure ("  ".intercalate (padRight (toString y) yearWidth :: cells))

/-- A number padded with zeros to a width that counts its sign. -/
def zeroPadded (width : Nat) (n : Int) : String :=
  let digits := toString n.natAbs
  let sign := if n < 0 then "-" else ""
  sign ++ String.ofList (List.replicate (width - sign.length - digits.length) '0') ++ digits

end Cli

end Almanac
