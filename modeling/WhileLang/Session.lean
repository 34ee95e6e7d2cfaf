import WhileLang.Program

namespace WhileLang

/-- One machine, one store and one context, on which calls follow each other. -/
structure Session where
  machine : Machine Log
  store : Store
  context : Context
  scoping : Scoping

namespace Session

inductive Call where
  | exec (s : Stmt)
  | check (s : Stmt)
  | eval (e : Expr)
  | infer (e : Expr)
  | run (lines : List Stmt)
  | runOn (lines : List Stmt)
  | checkFlat (lines : List Stmt)
  | checkProgram (lines : List Stmt)
  | printValue (v : Value)
  | report (d : Diagnostic)

inductive Reply where
  | nothing
  | verdict (b : Bool)
  | value (v : Value)
  | type (τ : Ty)
  | refused (f : Fault)

def start (store : Store) (context : Context) (scoping : Scoping) : Session :=
  ⟨.start .empty, store, context, scoping⟩

/-- Lines that make no program are refused and change nothing. -/
def withProgram (lines : List Stmt) (s : Session)
    (act : Program → Option (Reply × Session)) : Option (Reply × Session) :=
  match Program.ofLines lines with
  | .ok p => act p
  | .error fault => some (.refused fault, s)

def checked (s : Session) (r : Checked) : Reply × Session :=
  (.verdict r.verdict, { s with context := r.context })

/-- A program that is `run` counts its diagnostics on a machine of its own, while its events go to
the log of the session; one that is `runOn` counts them here. -/
def call (bound : Nat) (s : Session) : Call → Option (Reply × Session)
  | .exec stmt => do
    let (m, env) ← stmt.exec bound s.machine s.store
    return (.nothing, { s with machine := m, store := env })
  | .check stmt => some (s.checked (stmt.check s.scoping s.context))
  | .eval e => some (.value (e.eval s.store), s)
  | .infer e => some (.type (e.infer s.context), s)
  | .run lines => withProgram lines s fun p => do
    let (log, env) ← p.run bound s.machine.out s.store
    return (.nothing, { s with machine := ⟨log, s.machine.diagnostics⟩, store := env })
  | .runOn lines => withProgram lines s fun p => do
    let (m, env) ← p.runOn bound s.machine s.store
    return (.nothing, { s with machine := m, store := env })
  | .checkFlat lines => withProgram lines s fun p =>
    some (s.checked (p.check .flat s.context))
  | .checkProgram lines => withProgram lines s fun p =>
    some (s.checked (p.check s.scoping s.context))
  | .printValue v => some (.nothing, { s with machine := s.machine.printValue v })
  | .report d => some (.nothing, { s with machine := s.machine.report d })

end Session

end WhileLang
