import WhileLang.Command

/-- Print what the program leaves behind. -/
def main (args : List String) : IO UInt32 := do
  match WhileLang.outcome WhileLang.ampleBound args with
  | some outcome =>
    IO.print outcome.stdout
    IO.eprint outcome.stderr
    return outcome.exit
  | none => return 1
