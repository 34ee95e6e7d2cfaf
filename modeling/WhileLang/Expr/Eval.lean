import WhileLang.Store
import WhileLang.Expr.Basic

namespace WhileLang

/-- Arithmetic wraps around at 64 bits. A connective that its left operand decides does not look at
the right one; every other pair of operands of the wrong kinds gives `undefined`, two undefined
operands of an equation among them. -/
def BinOp.apply : BinOp → Value → Value → Value
  | .add, .int a, .int b => .int (a + b)
  | .mul, .int a, .int b => .int (a * b)
  | .or, .bool true, _ => .bool true
  | .or, .bool false, .bool b => .bool b
  | .and, .bool false, _ => .bool false
  | .and, .bool true, .bool b => .bool b
  | .eq, .int a, .int b => .bool (a = b)
  | .eq, .bool a, .bool b => .bool (a = b)
  | .lt, .int a, .int b => .bool (a < b)
  | _, _, _ => .undefined

def Value.not : Value → Value
  | .bool b => .bool !b
  | _ => .undefined

/-- The value of an expression whose variables have the values that `ρ` gives them. -/
def Expr.denote (ρ : String → Value) : Expr → Value
  | .num n => .int n
  | .bool b => .bool b
  | .var x => ρ x
  | .not e => (e.denote ρ).not
  | .group e => e.denote ρ
  | .binary op l r => op.apply (l.denote ρ) (r.denote ρ)

/-- A variable that is not bound is undefined. -/
def Store.value (s : Store) (x : String) : Value :=
  (s.get? x).getD .undefined

def Expr.eval (s : Store) (e : Expr) : Value :=
  e.denote s.value

namespace Expr

variable (s : Store)

@[simp] theorem eval_num (n : Int64) : (num n).eval s = .int n := rfl

@[simp] theorem eval_bool (b : Bool) : (bool b).eval s = .bool b := rfl

@[simp] theorem eval_var (x : String) : (var x).eval s = s.value x := rfl

@[simp] theorem eval_not (e : Expr) : (not e).eval s = (e.eval s).not := rfl

@[simp] theorem eval_group (e : Expr) : (group e).eval s = e.eval s := rfl

@[simp] theorem eval_binary (op : BinOp) (l r : Expr) :
    (binary op l r).eval s = op.apply (l.eval s) (r.eval s) := rfl

end Expr

end WhileLang
