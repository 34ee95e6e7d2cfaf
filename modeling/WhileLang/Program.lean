import WhileLang.Stmt.Check
import WhileLang.Stmt.Exec

namespace WhileLang

/-- A program is one block. -/
structure Program where
  body : Stmt
  deriving DecidableEq

namespace Program

def ofLines (lines : List Stmt) : Except Fault Program := do
  return ⟨← Stmt.ofLines lines⟩

def text (p : Program) : String :=
  braces p.body.text

def check (sc : Scoping) (p : Program) (Γ : Context) : Checked :=
  p.body.check sc Γ

variable {σ : Type} [Sink σ]

/-- Run on a machine that may have run something before. -/
def runOn (bound : Nat) (p : Program) (m : Machine σ) (env : Store) :
    Option (Machine σ × Store) :=
  p.body.exec bound m env

/-- Run on a machine of its own, of which only the output stays. -/
def run (bound : Nat) (p : Program) (out : σ) (env : Store) : Option (σ × Store) := do
  let (m, env) ← p.runOn bound (.start out) env
  return (m.out, env)

end Program

end WhileLang
