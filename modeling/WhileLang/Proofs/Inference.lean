import WhileLang.Proofs.Agreement

namespace WhileLang

/-- What inference promises of a value. The truth values are not alone in `bool`: an equation of two
ill-typed sides has that type and can be undefined. Of an ill-typed expression nothing is known. -/
inductive Ty.Admits : Ty → Value → Prop
  | int (n : Int64) : Admits .int (.int n)
  | bool (b : Bool) : Admits .bool (.bool b)
  | undefined : Admits .bool .undefined
  | illTyped (v : Value) : Admits .illTyped v

theorem Value.HasType.eq_bool {v : Value} (h : v.HasType .bool) : ∃ b, v = .bool b := by
  cases h with
  | bool b => exact ⟨b, rfl⟩

namespace Ty.Admits

variable {v : Value} {τ : Ty}

theorem of_hasType (h : v.HasType τ) : τ.Admits v := by
  cases h with
  | int n => exact .int n
  | bool b => exact .bool b

theorem of_kind_ne (hv : v.kind ≠ .int) (hτ : τ ≠ .int) : τ.Admits v := by
  cases τ with
  | int => exact absurd rfl hτ
  | bool => cases v with
    | int n => exact absurd rfl hv
    | bool b => exact .bool b
    | undefined => exact .undefined
  | illTyped => exact .illTyped v

theorem eq_int (h : Ty.int.Admits v) : ∃ n, v = .int n := by
  cases h with
  | int n => exact ⟨n, rfl⟩

theorem eq_bool_or_undefined (h : Ty.bool.Admits v) :
    (∃ b, v = .bool b) ∨ v = .undefined := by
  cases h with
  | bool b => exact .inl ⟨b, rfl⟩
  | undefined => exact .inr rfl

theorem not (h : τ.Admits v) : τ.not.Admits v.not := by
  cases h with
  | int n => exact .illTyped _
  | bool b => exact .bool _
  | undefined => exact .undefined
  | illTyped v => exact .illTyped _

end Ty.Admits

namespace BinOp

/-- Sums and products, the operators that have integers for values. -/
def Arithmetic (op : BinOp) : Prop :=
  op = .add ∨ op = .mul

variable {op : BinOp} {v w : Value} {τ υ : Ty}

theorem apply_kind_ne_int (h : ¬ op.Arithmetic) : (op.apply v w).kind ≠ .int := by
  cases op with
  | add => exact absurd (.inl rfl) h
  | mul => exact absurd (.inr rfl) h
  | or => cases v with
    | bool a => cases a <;> cases w <;> exact nofun
    | _ => exact nofun
  | and => cases v with
    | bool a => cases a <;> cases w <;> exact nofun
    | _ => exact nofun
  | eq => cases v <;> cases w <;> exact nofun
  | lt => cases v <;> cases w <;> exact nofun

theorem infer_ne_int (h : ¬ op.Arithmetic) : op.infer τ υ ≠ .int := by
  cases op with
  | add => exact absurd (.inl rfl) h
  | mul => exact absurd (.inr rfl) h
  | or => cases τ <;> cases υ <;> decide
  | and => cases τ <;> cases υ <;> decide
  | eq =>
    rw [infer]
    split <;> decide
  | lt => cases τ <;> cases υ <;> decide

theorem Arithmetic.admits (h : op.Arithmetic) (hv : τ.Admits v) (hw : υ.Admits w) :
    (op.infer τ υ).Admits (op.apply v w) := by
  cases hv with
  | int a => cases hw with
    | int b =>
      rcases h with rfl | rfl
      · exact .int (a + b)
      · exact .int (a * b)
    | _ => rcases h with rfl | rfl <;> exact .illTyped _
  | _ => rcases h with rfl | rfl <;> exact .illTyped _

/-- The operands matter to sums and products only: the other operators neither have an integer for a
value nor `int` for a type. -/
theorem admits_apply (hv : τ.Admits v) (hw : υ.Admits w) :
    (op.infer τ υ).Admits (op.apply v w) := by
  by_cases h : op.Arithmetic
  · exact h.admits hv hw
  · exact .of_kind_ne (apply_kind_ne_int h) (infer_ne_int h)

end BinOp

theorem Context.Fits.admits {Γ : Context} {env : Store} (hfits : Γ.Fits env) (x : String) :
    ((Γ.get? x).getD .illTyped).Admits (env.value x) := by
  cases hx : Γ.get? x with
  | none => exact .illTyped _
  | some τ =>
    by_cases hτ : τ = .illTyped
    · subst hτ
      exact .illTyped _
    · obtain ⟨v, hv, hvτ⟩ := hfits x τ hx hτ
      rw [Store.value, hv]
      exact .of_hasType hvτ

namespace Expr

theorem admits_eval {Γ : Context} {env : Store} (hfits : Γ.Fits env) (e : Expr) :
    (e.infer Γ).Admits (e.eval env) := by
  induction e with
  | num n => exact .int n
  | bool b => exact .bool b
  | var x => exact hfits.admits x
  | not e ih => exact ih.not
  | group e ih => exact ih
  | binary op l r ihl ihr => exact BinOp.admits_apply ihl ihr

/-- An expression typed `int` has an integer for its value, and one typed `bool` never has. With no
equation of two ill-typed sides in it, the latter has a truth value. -/
theorem eval_sound {Γ : Context} {env : Store} (hfits : Γ.Fits env) (e : Expr) :
    (e.infer Γ = .int → ∃ n, e.eval env = .int n) ∧
      (e.infer Γ = .bool → (∃ b, e.eval env = .bool b) ∨ e.eval env = .undefined) ∧
      (e.EqTyped Γ → e.infer Γ = .bool → ∃ b, e.eval env = .bool b) := by
  have hadm := e.admits_eval hfits
  refine ⟨fun h => ?int, fun h => ?bool, fun heq h => ?typed⟩
  case int =>
    rw [h] at hadm
    exact hadm.eq_int
  case bool =>
    rw [h] at hadm
    exact hadm.eq_bool_or_undefined
  case typed =>
    have htype := eval_hasType hfits heq (by rw [h]; exact nofun)
    rw [h] at htype
    exact htype.eq_bool

theorem eval_sound_unrecorded :
    let Γ := (Context.empty.declare "x" .int).declare "b" .bool
    let env := (Store.empty.declare "x" (.int 3)).declare "b" (.bool true)
    let sum := binary .add (var "x") (num 1)
    let test := binary .and (var "b") (binary .lt (var "x") (num 5))
    let hole := not (binary .eq (var "u") (var "w"))
    Γ.Fits env ∧
      (sum.infer Γ = .int ∧ ∃ n, sum.eval env = .int n) ∧
      (test.EqTyped Γ ∧ test.infer Γ = .bool ∧ ∃ b, test.eval env = .bool b) ∧
      (¬ hole.EqTyped Γ ∧ hole.infer Γ = .bool ∧
        ((∃ b, hole.eval env = .bool b) ∨ hole.eval env = .undefined) ∧
        ¬ ∃ b, hole.eval env = .bool b) := by
  intro Γ env sum test hole
  have hfits : Γ.Fits env :=
    ((Context.agrees_empty.declare "x" (.int 3)).declare "b" (.bool true)).fits
  have hsum : sum.infer Γ = .int := by decide +kernel
  have htest : test.infer Γ = .bool := by decide +kernel
  have htyped : test.EqTyped Γ := by decide +kernel
  have hhole : hole.infer Γ = .bool := by decide +kernel
  have huntyped : ¬ hole.EqTyped Γ := by decide +kernel
  have hundefined : hole.eval env = .undefined := by decide +kernel
  have hnone : ¬ ∃ b, hole.eval env = .bool b := by
    rw [hundefined]
    exact nofun
  exact ⟨hfits, ⟨hsum, (eval_sound hfits sum).1 hsum⟩,
    ⟨htyped, htest, (eval_sound hfits test).2.2 htyped htest⟩,
    huntyped, hhole, (eval_sound hfits hole).2.1 hhole, hnone⟩

end Expr

end WhileLang
