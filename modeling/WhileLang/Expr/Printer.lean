import WhileLang.Value
import WhileLang.Expr.Basic

namespace WhileLang

/-- Only the two connectives stand between spaces. -/
def BinOp.symbol : BinOp → String
  | .add => "+"
  | .mul => "*"
  | .or => " || "
  | .and => " && "
  | .eq => "=="
  | .lt => "<"

/-- Every compound expression is written between parentheses, so that no precedence is needed to
read it. -/
def Expr.text : Expr → String
  | .num n => decimal n
  | .bool b => boolText b
  | .var x => x
  | .not e => "(!" ++ e.text ++ ")"
  | .group e => "(" ++ e.text ++ ")"
  | .binary op l r => "(" ++ l.text ++ op.symbol ++ r.text ++ ")"

end WhileLang
