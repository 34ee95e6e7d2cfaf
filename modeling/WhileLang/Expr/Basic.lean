namespace WhileLang

inductive BinOp where
  | add
  | mul
  | or
  | and
  | eq
  | lt
  deriving DecidableEq

/-- Expressions. A `group` is a pair of parentheses that was written down; it has no meaning of its
own. -/
inductive Expr where
  | num (n : Int64)
  | bool (b : Bool)
  | var (x : String)
  | not (e : Expr)
  | group (e : Expr)
  | binary (op : BinOp) (l r : Expr)
  deriving DecidableEq

/-- The operator and the operands of a binary expression. -/
def Expr.binary? : Expr → Option (BinOp × Expr × Expr)
  | .binary op l r => some (op, l, r)
  | _ => none

end WhileLang
