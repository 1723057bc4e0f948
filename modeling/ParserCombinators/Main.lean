import ParserCombinators.Arithmetic.Table
import ParserCombinators.Csv.Table
import ParserCombinators.CubeGame.Basic

/-!
# Command line

`arithmetic` prints the table of expressions, `cube_game` reads games from standard input, and
`csv_reader` reads a table from the file that it is given.

## Main definitions

* `main` — the command line.
-/

set_option autoImplicit false

open ParserCombinators

/-- Prints a report and gives its exit code. -/
def ParserCombinators.Report.print (report : Report) : IO UInt32 := do
  IO.print report.output
  return report.exitCode.toUInt32

/-- Runs the command that the first argument names. -/
def main (args : List String) : IO UInt32 := do
  match args with
  | ["arithmetic"] => Arithmetic.table.print
  | ["cube_game"] => (CubeGame.report (← (← IO.getStdin).readToEnd)).print
  | ["csv_reader", path] => (Csv.report (← IO.FS.readFile path)).print
  | _ =>
    IO.eprintln "usage: arithmetic | cube_game | csv_reader FILE"
    return 2
