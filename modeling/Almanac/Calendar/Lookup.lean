import Almanac.Fault
import Almanac.Text.Numeral

/-!
# Looking up dates from given values

Feast dates and dates written as text, for arguments that arrive as values.

A feast is looked up for a year in two steps: the year must be usable as a key (lists and
records are not), and then a supported year (`checkYear`). A feast is named by its name or an
older spelling; any other name is unknown.

A date text is split at every `-` into parts that are read as numerals from the first on; the
first part that is no numeral is reported, but only the first four parts are read at all.
Then there must be exactly three parts, and they must make a date.
-/

namespace Almanac

/-- A year argument as a supported year: usable as a key first, then in range. -/
def feastYear (v : Value) : Except Fault Int :=
  if !v.isHashable then .error (.unhashable v.typeName)
  else (checkYear v).mapError .year

/-- Easter Sunday of a year given as a value. -/
def easterOf (v : Value) : Except Fault Date := do
  let y ← feastYear v
  (easterSunday? y).mapError .date

/-- Ash Wednesday of a year given as a value. -/
def ashWednesdayOf (v : Value) : Except Fault Date := do
  let y ← feastYear v
  (ashWednesday? y).mapError .date

/-- The date of a feast in a year given as a value. -/
def Feast.dateOf (f : Feast) (v : Value) : Except Fault Date :=
  match f with
  | .ashWednesday => ashWednesdayOf v
  | .easterSunday => easterOf v

/-- The feast a reference names, with its older spellings; a reference that names no feast is
an unknown feast, and one that cannot be a key is refused. -/
def feastOf (ref : AnchorRef) : Except Fault Feast :=
  match ref with
  | .name s =>
    match Feast.ofName? s with
    | some f => .ok f
    | none => .error (.unknownFeast s)
  | .other v => if v.isHashable then .error (.unknownFeast v.text) else .error (.unhashable v.typeName)

/-- Reads the parts of a date text as numerals, in order, stopping after the fourth. -/
def readParts : List String → Nat → Except Fault (List Int)
  | [], _ => .ok []
  | _, 0 => .ok []
  | p :: ps, fuel + 1 =>
    match Text.readInt? p with
    | none => .error (.numeral p)
    | some n => do
      let rest ← readParts ps fuel
      pure (n :: rest)

/-- The date a `Y-M-D` text stands for. -/
def Date.ofText? (v : Value) : Except Fault Date := do
  let s ← match v with
    | .str s => pure s
    | v => throw (Fault.noAttribute v.typeName "split")
  let parts := s.splitOn "-"
  let ns ← readParts parts 4
  match ns with
  | [y, m, d] => (Date.make? y m d).mapError .date
  | _ => throw (Fault.parts 3 parts.length)

end Almanac
