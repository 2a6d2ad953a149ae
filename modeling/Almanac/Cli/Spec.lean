import Almanac.Value.Basic

/-!
# Command-line argument specifications

A command is described by its name as it appears in messages, an optional description and its
arguments, in order. An argument is either positional, named by its destination, or an option
with one or more flags (`-h`, `--help`). What it takes from the command line is fixed by its
effect: a stored or appended option takes one word, a switch or the help option takes none, a
positional takes one word or, when it is a list, one or more, and a subcommand takes its name
and every word after it.

Parsed arguments are kept as values under their destinations: texts, integers, truth values and
lists.
-/

namespace Almanac

namespace Cli

/-- What an argument does with the words it takes. -/
inductive Effect where
  /-- Stores one word (positional or option). -/
  | store
  /-- Stores one or more words as a list (positional). -/
  | storeMany
  /-- Sets a switch. -/
  | flag
  /-- Appends one word to a list, once per use. -/
  | append
  /-- Shows the help and stops. -/
  | help
  /-- Selects a subcommand by name; the words after it are left for the subcommand. -/
  | subcommand (names : List (String × String))
  deriving Repr

/-- One argument of a command. -/
structure Argument where
  /-- The name under which the parsed value is kept. -/
  dest : String
  /-- The flags of an option; none for a positional. -/
  flags : List String := []
  /-- What the argument does. -/
  effect : Effect := .store
  /-- Whether a word is read as an integer. -/
  integer : Bool := false
  /-- The allowed words, if only some are. -/
  choices : Option (List String) := none
  /-- The value when the argument is not given. -/
  default : Value := .null
  /-- The help text, if any. -/
  help : Option String := none

namespace Argument

/-- Whether the argument is positional. -/
def isPositional (a : Argument) : Bool := a.flags.isEmpty

/-- The number of words an argument takes, as a pattern kind. -/
inductive Takes where
  /-- No word. -/
  | none
  /-- Exactly one word. -/
  | one
  /-- One word or more. -/
  | some
  /-- A name, then any words and options. -/
  | rest
  deriving DecidableEq, Repr

/-- The words an argument takes. -/
def takes (a : Argument) : Takes :=
  match a.effect with
  | .flag | .help => .none
  | .store | .append => .one
  | .storeMany => .some
  | .subcommand _ => .rest

/-- The choices of an argument, counting a subcommand's names. -/
def allowed (a : Argument) : Option (List String) :=
  match a.effect with
  | .subcommand names => some (names.map (·.1))
  | _ => a.choices

/-- The name of the argument in messages: its flags joined by slashes, or its destination. -/
def name (a : Argument) : String :=
  if a.flags.isEmpty then a.dest else "/".intercalate a.flags

/-- The help option. -/
def helpOption : Argument :=
  { dest := "help", flags := ["-h", "--help"], effect := .help,
    help := some "show this help message and exit" }

end Argument

/-- A command and its arguments. -/
structure Spec where
  /-- The name of the command in messages. -/
  prog : String
  /-- What the command does. -/
  description : Option String := none
  /-- The arguments, in order. -/
  arguments : List Argument

namespace Spec

/-- The options of a command. -/
def optionals (s : Spec) : List Argument := s.arguments.filter (!·.isPositional)

/-- The positionals of a command. -/
def positionals (s : Spec) : List Argument := s.arguments.filter (·.isPositional)

end Spec

/-- Parsed arguments, by destination. -/
abbrev Parsed := List (String × Value)

namespace Parsed

/-- The value kept under a destination; `null` when there is none. -/
def get (p : Parsed) (dest : String) : Value :=
  ((p.find? (·.1 == dest)).map (·.2)).getD .null

/-- Keeps a value under a destination, replacing one kept before. -/
def set (p : Parsed) (dest : String) (v : Value) : Parsed :=
  if p.any (·.1 == dest) then p.map fun e => if e.1 == dest then (dest, v) else e
  else p ++ [(dest, v)]

/-- The text kept under a destination. -/
def text (p : Parsed) (dest : String) : String :=
  match p.get dest with
  | .str s => s
  | _ => ""

/-- The integer kept under a destination. -/
def int (p : Parsed) (dest : String) : Int :=
  match p.get dest with
  | .int n => n
  | _ => 0

/-- The switch kept under a destination. -/
def flag (p : Parsed) (dest : String) : Bool :=
  match p.get dest with
  | .bool b => b
  | _ => false

/-- The texts kept under a destination. -/
def texts (p : Parsed) (dest : String) : List String :=
  match p.get dest with
  | .list items => items.filterMap fun
    | .str s => some s
    | _ => none
  | _ => []

/-- The integers kept under a destination. -/
def ints (p : Parsed) (dest : String) : List Int :=
  match p.get dest with
  | .list items => items.filterMap fun
    | .int n => some n
    | _ => none
  | _ => []

end Parsed

end Cli

end Almanac
