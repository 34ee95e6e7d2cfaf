import WhileLang.Program

namespace WhileLang

/-- What checking and running a program shows. The verdict of the check does not stop the run. -/
structure Report where
  code : String
  checked : Checked
  store : Store
  log : Log

/-- Check and run a program, each from nothing. -/
def Program.report (bound : Nat) (sc : Scoping) (p : Program) : Option Report := do
  let (log, store) ← p.run bound Log.empty .empty
  return ⟨p.text, p.check sc .empty, store, log⟩

/-- What an expression on its own shows. -/
structure Expr.Report where
  code : String
  value : Value
  type : Ty

def Expr.report (e : Expr) : Expr.Report :=
  ⟨e.text, e.eval .empty, e.infer .empty⟩

namespace Transcript

def writeLines (t : Transcript) (lines : List String) : Transcript :=
  lines.foldl writeLine t

/-- The lines above what a program shows while it runs. -/
def header (t : Transcript) (name code : String) (verdict : Bool) : Transcript :=
  t.writeLines ["", "EXAMPLE: " ++ name, "CODE FROM AST:", code, "",
    "TYPE CHECK: " ++ boolText verdict, "", "RUNTIME RESULT:"]

/-- The lines below it. -/
def trailer (t : Transcript) : Transcript :=
  t.writeLines ["", "**************************"]

/-- Write a report once the program has run. -/
def writeReport (t : Transcript) (name : String) (r : Report) : Transcript :=
  (r.log.events.foldl emit (t.header name r.code r.checked.verdict)).trailer

/-- Write what a program shows while it runs. -/
def stream (bound : Nat) (sc : Scoping) (t : Transcript) (name : String) (p : Program) :
    Option Transcript := do
  let (t, _) ← p.run bound (t.header name p.text (p.check sc .empty).verdict) .empty
  return t.trailer

def writeExpr (t : Transcript) (name : String) (r : Expr.Report) : Transcript :=
  t.writeLines ["******* " ++ name, r.code, r.value.text, r.type.text, ""]

end Transcript

end WhileLang
