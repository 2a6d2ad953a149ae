import Almanac.Cli.Run

/-!
# The almanac program

Runs the command line on the program's arguments, reading dataset files when a run asks for
one, and writes what the run wrote to the output and error streams. A run that ends with an
uncaught fault reports the fault's class and message on the error stream and exits with 1.
-/

open Almanac

/-- The dataset in a file: its JSON document, or the fault of reading it. -/
def readDataset (path : String) : IO (Except Fault Value) := do
  try
    let text ← IO.FS.readFile path
    match Value.parse? text with
    | some v => pure (.ok v)
    | none => pure (.error (.notJson "Expecting value: line 1 column 1 (char 0)"))
  catch _ => pure (.error (.missingFile path))

/-- Carries a run through, reading the files it asks for. -/
partial def perform : Cli.Run → IO Cli.Outcome
  | .done o => pure o
  | .load path next => do perform (next (← readDataset path))

/-- Runs the almanac's command line. -/
def main (args : List String) : IO UInt32 := do
  let o ← perform (Cli.run "caribalmanac" args)
  let out ← IO.getStdout
  let err ← IO.getStderr
  out.putStr o.console.out
  err.putStr o.console.err
  out.flush
  err.flush
  match o.ending with
  | .exit code => pure code.toUInt32
  | .uncaught f =>
    err.putStrLn (f.kind.className ++ ": " ++ f.message)
    pure 1
