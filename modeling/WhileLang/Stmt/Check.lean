import WhileLang.Expr.Infer
import WhileLang.Stmt.Basic

namespace WhileLang

/-- Whether the declarations in the body of a loop or a branch stay recorded after it. -/
inductive Scoping where
  | flat
  | nested
  deriving DecidableEq

/-- A verdict and the types recorded up to it, which a failure keeps. -/
structure Checked where
  verdict : Bool
  context : Context
  deriving DecidableEq

/-- Check on only after a success. -/
def Checked.andThen (r : Checked) (check : Context → Checked) : Checked :=
  if r.verdict then check r.context else r

/-- Check a body. In the nested mode what the body records is forgotten after it. -/
def Scoping.body (sc : Scoping) (check : Context → Checked) (Γ : Context) : Checked :=
  match sc with
  | .flat => check Γ
  | .nested => ⟨(check Γ).verdict, Γ⟩

def Stmt.check (sc : Scoping) : Stmt → Context → Checked
  | .seq s t, Γ => (s.check sc Γ).andThen (t.check sc)
  | .declare x e, Γ =>
    match e.infer Γ with
    | .illTyped => ⟨false, Γ⟩
    | τ => ⟨true, Γ.declare x τ⟩
  | .assign x e, Γ => ⟨Γ.get? x = some (e.infer Γ), Γ⟩
  | .whileDo c body, Γ =>
    Checked.andThen ⟨c.infer Γ = .bool, Γ⟩ (sc.body (body.check sc))
  | .ifElse c s t, Γ =>
    (Checked.andThen ⟨c.infer Γ = .bool, Γ⟩ (sc.body (s.check sc))).andThen
      (sc.body (t.check sc))
  | .print e, Γ => ⟨e.infer Γ ≠ .illTyped, Γ⟩
  | .block s, Γ => s.check sc Γ

end WhileLang
