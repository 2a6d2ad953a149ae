import Almanac.Cli.Spec
import Almanac.Text.Wrap
import Almanac.Text.CaseMap

/-!
# Usage lines and help pages

The usage line of a command names the command, then each option in brackets, then each
positional. An option shows its first flag and, when it takes a word, the word's placeholder:
its choices in braces, or its destination in capitals. A positional shows its placeholder, with
`[name ...]` after it when it takes one word or more, and a subcommand shows its names in braces
followed by `...`.

A usage line longer than the width is folded. When the command's name is short (the prefix
`usage: ` and the name take at most three quarters of the width), the options follow the name and
the positionals start a new line, both indented under the first option; folded lines break
between parts. Otherwise the name stands alone and the parts follow on lines indented by the
prefix.

The help page is the usage line, the description filled into the width, then the positional
arguments and the options, each with its help text in a column. The column starts two places
after the longest entry but at most at place 24; an entry too long for the space before the
column stands on a line of its own.
-/

namespace Almanac

namespace Cli

/-- The width of usage lines and help pages. -/
def pageWidth : Nat := 78

/-- The furthest place at which help texts start. -/
def maxHelpColumn : Nat := 24

/-- `n` spaces. -/
def spaces (n : Nat) : String := String.ofList (List.replicate n ' ')

/-- A text padded with spaces to a width. -/
def padRight (s : String) (width : Nat) : String := s ++ spaces (width - s.length)

namespace Argument

/-- The placeholder of the words an argument takes. -/
def metavar (a : Argument) : String :=
  match a.allowed with
  | some cs => "\x7b" ++ ",".intercalate cs ++ "\x7d"
  | none => if a.isPositional then a.dest else Text.upper a.dest

/-- The placeholders of the words an argument takes, as usage parts. -/
def wordParts (a : Argument) : List String :=
  match a.takes with
  | .none => []
  | .one => [a.metavar]
  | .some => [a.metavar, "[" ++ a.metavar ++ " ...]"]
  | .rest => [a.metavar, "..."]

/-- The part of an option in a usage line. -/
def optionPart (a : Argument) : String :=
  "[" ++ " ".intercalate (a.flags.take 1 ++ a.wordParts) ++ "]"

/-- The entry of an argument in a help page. -/
def invocation (a : Argument) : String :=
  if a.isPositional then a.metavar
  else if a.takes == .none then ", ".intercalate a.flags
  else ", ".intercalate (a.flags.map fun f => f ++ " " ++ " ".intercalate a.wordParts)

/-- The subcommands listed under an argument, with their help texts. -/
def subentries (a : Argument) : List (String × String) :=
  match a.effect with
  | .subcommand names => names
  | _ => []

end Argument

/-- The prefix of usage lines. -/
def usagePrefix : String := "usage: "

/-- Folds parts into lines of the width, each line after `indent`; with a prefix the first line
counts the prefix instead of the indent and is not indented. -/
def foldParts (parts : List String) (indent : String) (withPrefix : Bool) : List String :=
  let start := if withPrefix then usagePrefix.length - 1 else indent.length - 1
  let rec go : List String → List String → Nat → List String
    | [], line, _ => if line.isEmpty then [] else [indent ++ " ".intercalate line.reverse]
    | p :: rest, line, used =>
      if used + 1 + p.length > pageWidth && !line.isEmpty then
        (indent ++ " ".intercalate line.reverse) :: go rest [p] (indent.length - 1 + p.length + 1)
      else go rest (p :: line) (used + p.length + 1)
  let lines := go parts [] start
  if withPrefix then
    match lines with
    | first :: more => String.ofList (first.toList.drop indent.length) :: more
    | [] => []
  else lines

/-- The usage line of a command, folded when it is too long. -/
def usage (s : Spec) : String :=
  let optParts := s.optionals.map Argument.optionPart
  let posParts := s.positionals.flatMap Argument.wordParts
  let whole := " ".intercalate (s.prog :: optParts ++ posParts)
  let body :=
    if usagePrefix.length + whole.length ≤ pageWidth then whole
    else if 4 * (usagePrefix.length + s.prog.length) ≤ 3 * pageWidth then
      let indent := spaces (usagePrefix.length + s.prog.length + 1)
      let lines :=
        if !optParts.isEmpty then
          foldParts (s.prog :: optParts) indent true ++ foldParts posParts indent false
        else if !posParts.isEmpty then foldParts (s.prog :: posParts) indent true
        else [s.prog]
      "\n".intercalate lines
    else
      let indent := spaces usagePrefix.length
      let lines := foldParts (optParts ++ posParts) indent false
      let lines := if lines.length > 1 then
          foldParts optParts indent false ++ foldParts posParts indent false
        else lines
      "\n".intercalate (s.prog :: lines)
  usagePrefix ++ body ++ "\n"

/-- The entry of a help page for one argument or subcommand, with its help text in the
column. -/
def entry (indent column : Nat) (head : String) (help : Option String) : String :=
  let helpWidth := max (pageWidth - column) 11
  let room := column - indent - 2
  match help with
  | none | some "" => spaces indent ++ head ++ "\n"
  | some text =>
    let (header, first) :=
      if head.length ≤ room then (spaces indent ++ padRight head room ++ "  ", 0)
      else (spaces indent ++ head ++ "\n", column)
    match Text.wrap text helpWidth with
    | [] => if header.endsWith "\n" then header else header ++ "\n"
    | line :: more =>
      header ++ spaces first ++ line ++ "\n" ++
        String.join (more.map fun l => spaces column ++ l ++ "\n")

/-- The entries of a help page for some arguments. -/
def entries (column : Nat) (args : List Argument) : String :=
  String.join (args.map fun a =>
    entry 2 column a.invocation a.help ++
      String.join (a.subentries.map fun (name, help) => entry 4 column name (some help)))

/-- The place at which help texts start. -/
def helpColumn (s : Spec) : Nat :=
  let widths := s.arguments.flatMap fun a =>
    (a.invocation.length + 2) :: a.subentries.map fun e => e.1.length + 4
  min (widths.foldl max 0 + 2) maxHelpColumn

/-- A section of a help page; empty when it has no arguments. -/
def helpSection (heading : String) (column : Nat) (args : List Argument) : String :=
  if args.isEmpty then "" else "\n" ++ heading ++ ":\n" ++ entries column args ++ "\n"

/-- Collapses runs of three or more line breaks into two. -/
def collapseBreaks : List Char → Nat → List Char
  | [], _ => []
  | '\n' :: rest, run => if run ≥ 2 then collapseBreaks rest (run + 1)
    else '\n' :: collapseBreaks rest (run + 1)
  | c :: rest, _ => c :: collapseBreaks rest 0

/-- The help page of a command. -/
def helpPage (s : Spec) : String :=
  let column := helpColumn s
  let description := match s.description with
    | some d => "\n".intercalate (Text.wrap d pageWidth) ++ "\n\n"
    | none => ""
  let raw := usage s ++ "\n" ++ description ++ helpSection "positional arguments" column s.positionals ++
    helpSection "options" column s.optionals
  let text := String.ofList (collapseBreaks raw.toList 0)
  let trimmed := (text.toList.dropWhile (· == '\n')).reverse.dropWhile (· == '\n')
  String.ofList trimmed.reverse ++ "\n"

end Cli

end Almanac
