namespace WhileLang

inductive Command where
  | list
  | exprs
  | run (names : List String) (nested stream : Bool)
  deriving DecidableEq

namespace Command

/-- Read what follows `run`. A flag may stand anywhere before the first `--`, once; any other
argument that starts with a dash is refused there, unless it is a dash alone. -/
def readRun (names : List String) (nested stream : Bool) : List String → Option Command
  | [] => some (.run names nested stream)
  | "--" :: rest => some (.run (names ++ rest) nested stream)
  | "--scoped-types" :: rest => if nested then none else readRun names true stream rest
  | "--stream" :: rest => if stream then none else readRun names nested true rest
  | arg :: rest =>
    if arg.toList.head? = some '-' ∧ arg ≠ "-" then none
    else readRun (names ++ [arg]) nested stream rest

/-- A reader for the three commands. Requests for help are not among them. -/
def ofArgs? : List String → Option Command
  | ["list"] => some .list
  | ["list", "--"] => some .list
  | ["exprs"] => some .exprs
  | ["exprs", "--"] => some .exprs
  | "run" :: rest => readRun [] false false rest
  | _ => none

end Command

end WhileLang
