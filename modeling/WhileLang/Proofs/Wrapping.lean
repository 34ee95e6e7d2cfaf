import Mathlib.Data.Int.ModEq
import WhileLang.Proofs.Inference

namespace WhileLang

theorem toInt_ofInt_iff {n k : Int} :
    (Int64.ofInt n).toInt = k ↔ -2 ^ 63 ≤ k ∧ k < 2 ^ 63 ∧ k ≡ n [ZMOD 2 ^ 64] := by
  have hmod : (Int64.ofInt n).toInt ≡ n [ZMOD 2 ^ 64] := by
    rw [Int64.toInt_ofInt]
    exact Int.bmod_emod
  have hle := Int64.le_toInt (Int64.ofInt n)
  have hlt := Int64.toInt_lt (Int64.ofInt n)
  constructor
  · rintro rfl
    exact ⟨hle, hlt, hmod⟩
  · rintro ⟨hk, hk', hkmod⟩
    have hsame := hmod.trans hkmod.symm
    rw [Int.ModEq] at hsame
    omega

/-- The integer that a value stands for, if it is one. -/
def Value.exact : Value → Int
  | .int n => n.toInt
  | _ => 0

theorem Store.get?_of_kind?_int {s : Store} {x : String} (h : s.kind? x = some .int) :
    ∃ n, s.get? x = some (.int n) := by
  obtain ⟨v, hv, hk⟩ := Option.map_eq_some_iff.1 h
  cases v with
  | int n => exact ⟨n, hv⟩
  | bool b => cases hk
  | undefined => cases hk

namespace BinOp

variable {op : BinOp}

instance (op : BinOp) : Decidable op.Arithmetic :=
  inferInstanceAs (Decidable (_ ∨ _))

/-- Sums and products of integers of any size. -/
def exact : BinOp → Int → Int → Int
  | .add, a, b => a + b
  | .mul, a, b => a * b
  | _, _, _ => 0

theorem Arithmetic.apply_ofInt (h : op.Arithmetic) (a b : Int) :
    op.apply (.int (.ofInt a)) (.int (.ofInt b)) = .int (.ofInt (op.exact a b)) := by
  rcases h with rfl | rfl
  · exact congrArg Value.int (Int64.ofInt_add a b).symm
  · exact congrArg Value.int (Int64.ofInt_mul a b).symm

end BinOp

namespace Expr

/-- Built from numbers and variables that are bound to integers by sums, products and
parentheses. -/
def IsArithmetic (env : Store) : Expr → Prop
  | num _ => True
  | bool _ => False
  | var x => env.kind? x = some .int
  | not _ => False
  | group e => e.IsArithmetic env
  | binary op l r => op.Arithmetic ∧ l.IsArithmetic env ∧ r.IsArithmetic env

instance decidableIsArithmetic (env : Store) : (e : Expr) → Decidable (e.IsArithmetic env)
  | num _ => inferInstanceAs (Decidable True)
  | bool _ => inferInstanceAs (Decidable False)
  | var x => inferInstanceAs (Decidable (env.kind? x = some .int))
  | not _ => inferInstanceAs (Decidable False)
  | group e => decidableIsArithmetic env e
  | binary op l r =>
    have := decidableIsArithmetic env l
    have := decidableIsArithmetic env r
    inferInstanceAs (Decidable (op.Arithmetic ∧ l.IsArithmetic env ∧ r.IsArithmetic env))

/-- The value of an arithmetic expression over the integers, where nothing wraps around. -/
def exact (env : Store) : Expr → Int
  | num n => n.toInt
  | bool _ => 0
  | var x => (env.value x).exact
  | not _ => 0
  | group e => e.exact env
  | binary op l r => op.exact (l.exact env) (r.exact env)

variable {env : Store} {e : Expr}

/-- However often intermediate results wrap around, the value is that of wrapping once, at the
end. -/
theorem eval_eq_ofInt (h : e.IsArithmetic env) : e.eval env = .int (.ofInt (e.exact env)) := by
  induction e with
  | num n => exact congrArg Value.int (Int64.ofInt_toInt n).symm
  | bool b => exact h.elim
  | var x =>
    obtain ⟨n, hn⟩ := Store.get?_of_kind?_int h
    have hv : env.value x = .int n := by rw [Store.value, hn, Option.getD_some]
    rw [eval_var, exact, hv, Value.exact, Int64.ofInt_toInt]
  | not e => exact h.elim
  | group e ih => exact ih h
  | binary op l r ihl ihr =>
    obtain ⟨hop, hl, hr⟩ := h
    rw [eval_binary, ihl hl, ihr hr, hop.apply_ofInt, exact]

/-- Arithmetic is exact modulo the 64th power of two. The value of an arithmetic expression is the
one number in the range of 64 bits that is congruent to its exact value, and two such expressions
with one exact value have one value. -/
theorem eval_exact (h : e.IsArithmetic env) :
    (∃ v, e.eval env = .int v ∧
      ∀ k : Int, v.toInt = k ↔ -2 ^ 63 ≤ k ∧ k < 2 ^ 63 ∧ k ≡ e.exact env [ZMOD 2 ^ 64]) ∧
      ∀ (env' : Store) (e' : Expr), e'.IsArithmetic env' → e'.exact env' = e.exact env →
        e'.eval env' = e.eval env := by
  refine ⟨⟨_, eval_eq_ofInt h, fun k => toInt_ofInt_iff⟩, ?_⟩
  intro env' e' h' hexact
  rw [eval_eq_ofInt h', eval_eq_ofInt h, hexact]

theorem eval_exact_distributed :
    let env := (Store.empty.declare "x" (.int 9223372036854775807)).declare "y" (.int (-3))
    let e := binary .mul (var "x") (group (binary .add (var "y") (num 2)))
    let e' := binary .add (binary .mul (var "y") (var "x")) (binary .mul (num 2) (var "x"))
    e.IsArithmetic env ∧ e'.IsArithmetic env ∧ e'.exact env = e.exact env ∧
      e'.eval env = e.eval env ∧ (∃ v, e.eval env = .int v ∧
      ∀ k : Int, v.toInt = k ↔ -2 ^ 63 ≤ k ∧ k < 2 ^ 63 ∧ k ≡ e.exact env [ZMOD 2 ^ 64]) := by
  intro env e e'
  have h : e.IsArithmetic env := by decide +kernel
  have h' : e'.IsArithmetic env := by decide +kernel
  have hexact : e'.exact env = e.exact env := by decide +kernel
  obtain ⟨hvalue, hsame⟩ := eval_exact h
  exact ⟨h, h', hexact, hsame env e' h' hexact, hvalue⟩

end Expr

end WhileLang
