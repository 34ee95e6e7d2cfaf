import WhileLang.Context
import WhileLang.Expr.Basic

namespace WhileLang

/-- An equation only asks that both sides have one type, and two ill-typed sides have. -/
def BinOp.infer : BinOp → Ty → Ty → Ty
  | .add, .int, .int => .int
  | .mul, .int, .int => .int
  | .or, .bool, .bool => .bool
  | .and, .bool, .bool => .bool
  | .eq, τ, υ => if τ = υ then .bool else .illTyped
  | .lt, .int, .int => .bool
  | _, _, _ => .illTyped

def Ty.not : Ty → Ty
  | .bool => .bool
  | _ => .illTyped

/-- A variable that is not recorded is ill-typed. -/
def Expr.infer (Γ : Context) : Expr → Ty
  | .num _ => .int
  | .bool _ => .bool
  | .var x => (Γ.get? x).getD .illTyped
  | .not e => (e.infer Γ).not
  | .group e => e.infer Γ
  | .binary op l r => op.infer (l.infer Γ) (r.infer Γ)

end WhileLang
