import WhileLang.Proofs.Agreement

namespace WhileLang

namespace Value

variable {v : Value} {τ υ : Ty}

theorem HasType.ne_undefined (h : v.HasType τ) : v ≠ .undefined := by
  cases h <;> exact nofun

theorem HasType.unique (h : v.HasType τ) (h' : v.HasType υ) : τ = υ := by
  cases h <;> cases h' <;> rfl

theorem not_hasType_of_defined (hv : v ≠ .undefined → v.HasType τ) (h : v.not ≠ .undefined) :
    v.not.HasType τ.not := by
  cases v with
  | int n => exact absurd rfl h
  | bool b =>
    cases hv nofun
    exact .bool _
  | undefined => exact absurd rfl h

end Value

/-- Context and store say the same about every name: it has a proper type exactly when it is bound
to a value of that type. Of all other names neither knows anything. -/
structure Context.Mirrors (Γ : Context) (env : Store) : Prop where
  int (x : String) : Γ.get? x = some .int ↔ ∃ n, env.get? x = some (.int n)
  bool (x : String) : Γ.get? x = some .bool ↔ ∃ b, env.get? x = some (.bool b)

namespace Context

variable {Γ : Context} {env : Store} {τ : Ty} {v : Value}

theorem mirrors_empty : empty.Mirrors .empty where
  int x := by simp
  bool x := by simp

theorem Mirrors.declare (h : Γ.Mirrors env) (x : String) (hint : τ = .int ↔ ∃ n, v = .int n)
    (hbool : τ = .bool ↔ ∃ b, v = .bool b) : (Γ.declare x τ).Mirrors (env.declare x v) where
  int y := by
    rw [get?_declare, Store.get?_declare]
    split
    · simpa only [Option.some.injEq] using hint
    · exact h.int y
  bool y := by
    rw [get?_declare, Store.get?_declare]
    split
    · simpa only [Option.some.injEq] using hbool
    · exact h.bool y

theorem Mirrors.hasType (h : Γ.Mirrors env) {x : String} (hx : env.value x ≠ .undefined) :
    (env.value x).HasType ((Γ.get? x).getD .illTyped) := by
  rw [Store.value] at hx ⊢
  cases hv : env.get? x with
  | none =>
    rw [hv] at hx
    exact absurd rfl hx
  | some v => cases v with
    | int n =>
      rw [(h.int x).2 ⟨n, hv⟩]
      exact .int n
    | bool b =>
      rw [(h.bool x).2 ⟨b, hv⟩]
      exact .bool b
    | undefined =>
      rw [hv] at hx
      exact absurd rfl hx

end Context

namespace BinOp

variable {op : BinOp} {v w : Value} {τ υ : Ty}

/-- The left operand alone decides the connective. -/
def Decides (op : BinOp) (v : Value) : Prop :=
  op = .or ∧ v = .bool true ∨ op = .and ∧ v = .bool false

instance (op : BinOp) (v : Value) : Decidable (op.Decides v) :=
  inferInstanceAs (Decidable (_ ∨ _))

theorem Decides.apply (h : op.Decides v) (w : Value) : op.apply v w = v := by
  rcases h with ⟨rfl, rfl⟩ | ⟨rfl, rfl⟩
  · rfl
  · rfl

theorem Decides.infer (h : op.Decides v) : op.infer .bool .bool = .bool := by
  rcases h with ⟨rfl, -⟩ | ⟨rfl, -⟩
  · rfl
  · rfl

theorem Decides.hasType (h : op.Decides v) : v.HasType .bool := by
  rcases h with ⟨-, rfl⟩ | ⟨-, rfl⟩
  · exact .bool true
  · exact .bool false

/-- An operator that its left operand does not decide has a value only for operands whose types it
accepts. -/
theorem operands_of_defined (hd : ¬ op.Decides v) (h : op.apply v w ≠ .undefined) :
    ∃ τ υ, v.HasType τ ∧ w.HasType υ ∧ op.infer τ υ ≠ .illTyped := by
  cases v with
  | int a => cases w with
    | int b => cases op with
      | or => exact absurd rfl h
      | and => exact absurd rfl h
      | _ => exact ⟨.int, .int, .int a, .int b, by decide⟩
    | _ => cases op <;> exact absurd rfl h
  | bool a => cases w with
    | bool b => cases op with
      | add => exact absurd rfl h
      | mul => exact absurd rfl h
      | lt => exact absurd rfl h
      | _ => exact ⟨.bool, .bool, .bool a, .bool b, by decide⟩
    | _ => cases op with
      | or => cases a with
        | true => exact absurd (.inl ⟨rfl, rfl⟩) hd
        | false => exact absurd rfl h
      | and => cases a with
        | true => exact absurd rfl h
        | false => exact absurd (.inr ⟨rfl, rfl⟩) hd
      | _ => exact absurd rfl h
  | undefined => cases op <;> exact absurd rfl h

theorem hasType_of_defined (hv : v ≠ .undefined → v.HasType τ) (hw : w ≠ .undefined → w.HasType υ)
    (hs : op.Decides v → υ = .bool) (h : op.apply v w ≠ .undefined) :
    (op.apply v w).HasType (op.infer τ υ) := by
  by_cases hd : op.Decides v
  -- nothing is known of the value of a right operand that is skipped, but its type is enough
  · have hτ := (hv hd.hasType.ne_undefined).unique hd.hasType
    rw [hd.apply, hτ, hs hd, hd.infer]
    exact hd.hasType
  · obtain ⟨τ', υ', hvτ, hwυ, hinfer⟩ := operands_of_defined hd h
    have hτ := (hv hvτ.ne_undefined).unique hvτ
    have hυ := (hw hwυ.ne_undefined).unique hwυ
    rw [hτ, hυ]
    exact apply_hasType hvτ hwυ hinfer

end BinOp

namespace Expr

/-- Wherever a connective is decided by its left operand, the right operand that it skips is typed
as a truth value. -/
def SkipsTyped (Γ : Context) (env : Store) : Expr → Prop
  | num _ => True
  | bool _ => True
  | var _ => True
  | not e => e.SkipsTyped Γ env
  | group e => e.SkipsTyped Γ env
  | binary op l r =>
    l.SkipsTyped Γ env ∧ r.SkipsTyped Γ env ∧ (op.Decides (l.eval env) → r.infer Γ = .bool)

instance decidableSkipsTyped (Γ : Context) (env : Store) :
    (e : Expr) → Decidable (e.SkipsTyped Γ env)
  | num _ => inferInstanceAs (Decidable True)
  | bool _ => inferInstanceAs (Decidable True)
  | var _ => inferInstanceAs (Decidable True)
  | not e => decidableSkipsTyped Γ env e
  | group e => decidableSkipsTyped Γ env e
  | binary op l r =>
    have := decidableSkipsTyped Γ env l
    have := decidableSkipsTyped Γ env r
    inferInstanceAs (Decidable (l.SkipsTyped Γ env ∧ r.SkipsTyped Γ env ∧
      (op.Decides (l.eval env) → r.infer Γ = .bool)))

variable {Γ : Context} {env : Store} {e : Expr}

theorem hasType_of_eval_ne (hm : Γ.Mirrors env) (hs : e.SkipsTyped Γ env)
    (h : e.eval env ≠ .undefined) : (e.eval env).HasType (e.infer Γ) := by
  induction e with
  | num n => exact .int n
  | bool b => exact .bool b
  | var x => exact hm.hasType h
  | not e ih => exact Value.not_hasType_of_defined (ih hs) h
  | group e ih => exact ih hs h
  | binary op l r ihl ihr =>
    exact BinOp.hasType_of_defined (ihl hs.1) (ihr hs.2.1) hs.2.2 h

/-- An expression that inference rejects is undefined, if no connective in it skips an operand that
is not typed as a truth value. -/
theorem eval_undefined_of_rejected (hm : Γ.Mirrors env) (hs : e.SkipsTyped Γ env)
    (h : e.infer Γ = .illTyped) : e.eval env = .undefined := by
  apply Decidable.byContradiction
  intro hdefined
  exact (hasType_of_eval_ne hm hs hdefined).ne_illTyped h

/-- The first expression has a connective that skips a comparison. The second one skips a number,
and is rejected but true. -/
theorem eval_undefined_of_rejected_sum :
    let Γ := ((Context.empty.declare "x" .int).declare "b" .bool).declare "u" .illTyped
    let env := ((Store.empty.declare "x" (.int 3)).declare "b" (.bool false)).declare "u" .undefined
    let sum := binary .eq (binary .and (var "b") (binary .lt (var "x") (num 5)))
      (not (binary .add (var "x") (var "u")))
    let skips := binary .or (not (var "b")) (var "x")
    Γ.Mirrors env ∧
      (sum.SkipsTyped Γ env ∧ sum.infer Γ = .illTyped ∧ sum.eval env = .undefined) ∧
      ¬ skips.SkipsTyped Γ env ∧ skips.infer Γ = .illTyped ∧ skips.eval env = .bool true := by
  intro Γ env sum skips
  have hm : Γ.Mirrors env :=
    ((Context.mirrors_empty.declare "x" (by simp) (by simp)).declare "b" (by simp)
      (by simp)).declare "u" (by simp) (by simp)
  have hs : sum.SkipsTyped Γ env := by decide +kernel
  have hsum : sum.infer Γ = .illTyped := by decide +kernel
  exact ⟨hm, ⟨hs, hsum, eval_undefined_of_rejected hm hs hsum⟩, by decide +kernel⟩

end Expr

end WhileLang
