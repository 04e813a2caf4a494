import ArrayTypes.Command.Run

/-! The command line. Log lines are written before the error text. -/

open ArrayTypes.Command

def main (arguments : List String) : IO UInt32 := do
  match Invocation.ofArguments? arguments with
  | none =>
    IO.eprintln
      "usage: [--class DECL]... [--no-preload] (describe LITERAL... | assignable FROM TO)"
    return 2
  | some invocation =>
    let report := run invocation
    for text in report.log (← IO.getEnv "RUST_LOG") do
      IO.eprintln text
    IO.print report.output
    IO.eprint report.errors
    return report.exitCode.toUInt32
