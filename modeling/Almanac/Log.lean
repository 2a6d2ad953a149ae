/-!
# Log notes

Operations that work through a dataset leave notes on what they did: debugging notes, and
warnings for the events an expansion skipped. A note records its level, the part of the library
that wrote it and its text; the command line shows the notes at or above the level it is asked
for.
-/

namespace Almanac

/-- How important a note is. -/
inductive Level where
  /-- Detail for debugging. -/
  | debug
  /-- Something was skipped. -/
  | warning
  deriving DecidableEq, Repr

/-- The part of the library that writes a note. -/
inductive Source where
  /-- Dataset loading. -/
  | loader
  /-- Expansion of definitions. -/
  | expansion
  /-- Whole-dataset operations such as validation. -/
  | api
  deriving DecidableEq, Repr

/-- A note left by an operation. -/
structure Note where
  /-- Its level. -/
  level : Level
  /-- Who wrote it. -/
  source : Source
  /-- What it says. -/
  text : String
  deriving Repr

/-- A debugging note. -/
def Note.debug (source : Source) (text : String) : Note := ⟨.debug, source, text⟩

/-- A warning. -/
def Note.warning (source : Source) (text : String) : Note := ⟨.warning, source, text⟩

end Almanac
