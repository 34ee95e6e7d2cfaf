import WhileLang.Fault
import WhileLang.Expr.Basic

namespace WhileLang

/-- Statements. The bodies of a loop and of a branch are scopes; a `block` is a pair of braces that
was written down and opens no scope. -/
inductive Stmt where
  | seq (s t : Stmt)
  | declare (x : String) (e : Expr)
  | assign (x : String) (e : Expr)
  | whileDo (c : Expr) (body : Stmt)
  | ifElse (c : Expr) (s t : Stmt)
  | print (e : Expr)
  | block (s : Stmt)
  deriving DecidableEq

/-- A first line and those after it, as a sequence that nests to the right. -/
def Stmt.chain (first : Stmt) : List Stmt → Stmt
  | [] => first
  | next :: rest => .seq first (next.chain rest)

/-- There is no empty statement, so that a sequence needs a line. -/
def Stmt.ofLines : List Stmt → Except Fault Stmt
  | [] => .error .emptySequence
  | first :: rest => .ok (first.chain rest)

end WhileLang
