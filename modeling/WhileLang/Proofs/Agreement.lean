import WhileLang.Expr.Eval
import WhileLang.Expr.Infer
import WhileLang.Proofs.Decimal
import WhileLang.Proofs.Kinds

namespace WhileLang

/-- The values of a type. `illTyped` has none, and `undefined` is a value of no type. -/
inductive Value.HasType : Value → Ty → Prop
  | int (n : Int64) : HasType (.int n) .int
  | bool (b : Bool) : HasType (.bool b) .bool

namespace Value.HasType

variable {v w : Value} {τ : Ty}

theorem ne_illTyped (h : v.HasType τ) : τ ≠ .illTyped := by
  cases h <;> exact nofun

theorem kind_eq (hv : v.HasType τ) (hw : w.HasType τ) : v.kind = w.kind := by
  cases hv <;> cases hw <;> rfl

theorem of_kind_eq (hv : v.HasType τ) (hk : w.kind = v.kind) : w.HasType τ := by
  cases w with
  | int n => cases hv with
    | int => exact .int n
    | bool => cases hk
  | bool b => cases hv with
    | int => cases hk
    | bool => exact .bool b
  | undefined => cases hv <;> cases hk

theorem text_ne (h : v.HasType τ) : v.text ≠ "Undefined" := by
  cases h with
  | int n =>
    intro he
    obtain ⟨c, cs, hn, hc⟩ := decimal_head n
    have hu : 'U' :: "ndefined".toList = c :: cs := (congrArg String.toList he).symm.trans hn
    rw [← (List.cons.inj hu).1] at hc
    exact absurd hc (by decide)
  | bool b => cases b <;> decide

end Value.HasType

/-- Every name with a proper type is bound to a value of that type. -/
def Context.Fits (Γ : Context) (env : Store) : Prop :=
  ∀ x τ, Γ.get? x = some τ → τ ≠ .illTyped → ∃ v, env.get? x = some v ∧ v.HasType τ

structure Context.Agrees (Γ : Context) (env : Store) : Prop where
  typed : ∀ x, Γ.get? x ≠ some .illTyped
  fits : Γ.Fits env

namespace Context

variable {Γ : Context} {env : Store} {x : String} {τ : Ty} {v : Value}

theorem Agrees.value (h : Γ.Agrees env) (hx : Γ.get? x = some τ) :
    ∃ v, env.get? x = some v ∧ v.HasType τ :=
  h.fits x τ hx fun he => h.typed x (he ▸ hx)

theorem agrees_empty : empty.Agrees .empty where
  typed x := by
    rw [get?_empty]
    exact nofun
  fits x τ hx := by
    rw [get?_empty] at hx
    exact nomatch hx

theorem Agrees.declare (h : Γ.Agrees env) (x : String) (hv : v.HasType τ) :
    (Γ.declare x τ).Agrees (env.declare x v) where
  typed y hy := by
    rw [get?_declare] at hy
    split at hy
    · exact hv.ne_illTyped (Option.some.inj hy)
    · exact h.typed y hy
  fits y υ hy hυ := by
    rw [get?_declare] at hy
    rw [Store.get?_declare]
    split at hy
    · rename_i he
      cases hy
      exact ⟨v, if_pos he, hv⟩
    · rename_i he
      rw [if_neg he]
      exact h.fits y υ hy hυ

theorem Agrees.of_kind? (h : Γ.Agrees env) {env' : Store}
    (hk : ∀ x, env'.kind? x = env.kind? x) : Γ.Agrees env' where
  typed := h.typed
  fits x τ hx hτ := by
    obtain ⟨v, hv, hvτ⟩ := h.fits x τ hx hτ
    have hk' := (hk x).trans (Store.kind?_of_get? hv)
    obtain ⟨w, hw, hwk⟩ := Option.map_eq_some_iff.1 hk'
    exact ⟨w, hw, hvτ.of_kind_eq hwk⟩

theorem Agrees.merge (h : Γ.Agrees env) (inner : Store) : Γ.Agrees (env.merge inner) :=
  h.of_kind? (env.kind?_merge inner)

end Context

/-- Every equation in the expression has a side with a proper type. -/
def Expr.EqTyped (Γ : Context) : Expr → Prop
  | num _ => True
  | bool _ => True
  | var _ => True
  | not e => e.EqTyped Γ
  | group e => e.EqTyped Γ
  | binary op l r =>
    l.EqTyped Γ ∧ r.EqTyped Γ ∧ (op = .eq → l.infer Γ ≠ .illTyped ∨ r.infer Γ ≠ .illTyped)

instance Expr.decidableEqTyped (Γ : Context) : (e : Expr) → Decidable (e.EqTyped Γ)
  | num _ => inferInstanceAs (Decidable True)
  | bool _ => inferInstanceAs (Decidable True)
  | var _ => inferInstanceAs (Decidable True)
  | not e => decidableEqTyped Γ e
  | group e => decidableEqTyped Γ e
  | binary op l r =>
    have := decidableEqTyped Γ l
    have := decidableEqTyped Γ r
    inferInstanceAs (Decidable (l.EqTyped Γ ∧ r.EqTyped Γ ∧
      (op = .eq → l.infer Γ ≠ .illTyped ∨ r.infer Γ ≠ .illTyped)))

theorem BinOp.infer_operands {op : BinOp} {τ υ : Ty} (h : op.infer τ υ ≠ .illTyped)
    (heq : op = .eq → τ ≠ .illTyped ∨ υ ≠ .illTyped) : τ ≠ .illTyped ∧ υ ≠ .illTyped := by
  cases op <;> cases τ <;> cases υ <;> simp_all [BinOp.infer]

theorem BinOp.apply_hasType {op : BinOp} {v w : Value} {τ υ : Ty} (hv : v.HasType τ)
    (hw : w.HasType υ) (h : op.infer τ υ ≠ .illTyped) :
    (op.apply v w).HasType (op.infer τ υ) := by
  cases hv with
  | int a => cases hw with
    | int b => cases op with
      | add => exact .int _
      | mul => exact .int _
      | or => exact absurd rfl h
      | and => exact absurd rfl h
      | eq => exact .bool _
      | lt => exact .bool _
    | bool b => cases op <;> exact absurd rfl h
  | bool a => cases hw with
    | int b => cases op <;> exact absurd rfl h
    | bool b => cases op with
      | add => exact absurd rfl h
      | mul => exact absurd rfl h
      | or => cases a <;> exact .bool _
      | and => cases a <;> exact .bool _
      | eq => exact .bool _
      | lt => exact absurd rfl h

theorem Value.not_hasType {v : Value} {τ : Ty} (hv : v.HasType τ) (h : τ.not ≠ .illTyped) :
    v.not.HasType τ.not := by
  cases hv with
  | int n => exact absurd rfl h
  | bool b => exact .bool _

theorem Expr.eval_hasType {Γ : Context} {env : Store} (hfits : Γ.Fits env) {e : Expr}
    (heq : e.EqTyped Γ) (h : e.infer Γ ≠ .illTyped) : (e.eval env).HasType (e.infer Γ) := by
  induction e with
  | num n => exact .int n
  | bool b => exact .bool b
  | var x =>
    rw [infer] at h ⊢
    cases hx : Γ.get? x with
    | none =>
      rw [hx] at h
      exact absurd rfl h
    | some τ =>
      rw [hx] at h
      obtain ⟨v, hv, hvτ⟩ := hfits x τ hx h
      rw [eval_var, Store.value, hv]
      exact hvτ
  | not e ih =>
    have he : e.infer Γ ≠ .illTyped := fun hi => h (congrArg Ty.not hi)
    exact Value.not_hasType (ih heq he) h
  | group e ih => exact ih heq h
  | binary op l r ihl ihr =>
    obtain ⟨hl, hr⟩ := BinOp.infer_operands h heq.2.2
    exact BinOp.apply_hasType (ihl heq.1 hl) (ihr heq.2.1 hr) h

end WhileLang
