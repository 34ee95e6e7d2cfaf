import WhileLang.Proofs.Courses

namespace WhileLang

namespace Store

variable {env : Store} {x : String} {v w : Value}

theorem assign_of_unbound (h : env.get? x = none) : env.assign x v = .error (.undeclared x) := by
  rw [assign, h]

theorem assign_of_kind_ne (h : env.get? x = some w) (hk : w.kind ≠ v.kind) :
    env.assign x v = .error (.kindMismatch x w.kind v.kind) := by
  rw [assign, h]
  exact if_neg fun hs => hk (Value.sameKind_iff.1 hs)

theorem assign_of_kind_eq (h : env.kind? x = some v.kind) :
    env.assign x v = .ok (env.declare x v) :=
  assign_eq_ok_iff.2 ⟨h, rfl⟩

end Store

namespace Stmt

variable {σ : Type} [Sink σ] {m : Machine σ} {env env' : Store} {r : Machine σ × Store}
  {x : String} {c e : Expr}

theorem Runs.iff_eq {s : Stmt} {q : Machine σ × Store} (h : s.Runs m env q) :
    s.Runs m env r ↔ r = q := by
  constructor
  · intro hr
    exact hr.unique h
  · rintro rfl
    exact h

theorem runs_assign_of_error {fault : Fault} (h : env.assign x (e.eval env) = .error fault) :
    (assign x e).Runs m env r ↔ r = (m.feed [.diagnostic ⟨fault, (assign x e).text⟩], env) := by
  apply Runs.iff_eq
  refine ⟨0, ?_⟩
  rw [exec, h]
  rfl

theorem runs_assign_of_ok (h : env.assign x (e.eval env) = .ok env') :
    (assign x e).Runs m env r ↔ r = (m, env') := by
  apply Runs.iff_eq
  refine ⟨0, ?_⟩
  rw [exec, h]

theorem runs_ifElse_of_kind {s t : Stmt} (h : (c.eval env).kind ≠ .bool) :
    (ifElse c s t).Runs m env r ↔
      r = (m.feed [.diagnostic (.condition "if" c (c.eval env).kind)], env) := by
  apply Runs.iff_eq
  refine ⟨0, ?_⟩
  rw [exec_ifElse, branch_of_kind h, Option.map_some, Store.merge_self]
  rfl

theorem runs_whileDo_of_kind {body : Stmt} (h : (c.eval env).kind ≠ .bool) :
    (whileDo c body).Runs m env r ↔
      r = (m.feed [.diagnostic (.condition "while" c (c.eval env).kind)], env) := by
  apply Runs.iff_eq
  refine ⟨1, ?_⟩
  rw [exec_whileDo, iterate, loopRound_of_kind h, Option.map_some, Store.merge_self]
  rfl

/-- A statement that is diagnosed itself leaves one event and the store as it was. For an assignment
that is so exactly when its variable is not bound, or to a value of another kind; any other
assignment leaves no event and changes its variable alone. For a branch and a loop it is so when the
condition is no truth value, whatever their bodies are, also when these never end. -/
theorem fault_leaves_store (env : Store) :
    (∀ x e, ∃ es env',
      (∀ (m : Machine σ) r, (assign x e).Runs m env r ↔ r = (m.feed es, env')) ∧
      ((∃ d, .diagnostic d ∈ es) ↔
        env.get? x = none ∨ ∃ v, env.get? x = some v ∧ v.kind ≠ (e.eval env).kind) ∧
      (env.get? x = none →
        es = [.diagnostic ⟨.undeclared x, (assign x e).text⟩] ∧ env' = env) ∧
      (∀ v, env.get? x = some v → v.kind ≠ (e.eval env).kind →
        es = [.diagnostic ⟨.kindMismatch x v.kind (e.eval env).kind, (assign x e).text⟩] ∧
          env' = env) ∧
      (∀ v, env.get? x = some v → v.kind = (e.eval env).kind →
        es = [] ∧ ∀ y, env'.get? y = if x = y then some (e.eval env) else env.get? y)) ∧
    (∀ c s t, (c.eval env).kind ≠ .bool → ∀ (m : Machine σ) r, (ifElse c s t).Runs m env r ↔
      r = (m.feed [.diagnostic ⟨.nonBoolean "if" (c.eval env).kind, "if " ++ c.text⟩], env)) ∧
    ∀ c body, (c.eval env).kind ≠ .bool →
      (∀ (m : Machine σ) r, (whileDo c body).Runs m env r ↔
        r = (m.feed [.diagnostic ⟨.nonBoolean "while" (c.eval env).kind, "while " ++ c.text⟩],
          env)) ∧
      ∀ C : Course c body env env, C.rounds = 0 := by
  refine ⟨?_, fun c s t h m r => runs_ifElse_of_kind h, ?_⟩
  · intro x e
    cases hx : env.get? x with
    | none =>
      refine ⟨_, env, fun m r => runs_assign_of_error (Store.assign_of_unbound hx), ?_⟩
      simp
    | some v =>
      by_cases hk : v.kind = (e.eval env).kind
      · have hok := Store.assign_of_kind_eq ((Store.kind?_of_get? hx).trans (congrArg some hk))
        refine ⟨[], _, fun m r => runs_assign_of_ok hok, ?_⟩
        simp [hk, Store.get?_declare]
      · refine ⟨_, env, fun m r => runs_assign_of_error (Store.assign_of_kind_ne hx hk), ?_⟩
        simp [hk]
  · intro c body h
    refine ⟨fun m r => runs_whileDo_of_kind h, ?_⟩
    intro C
    have hc : c.eval env ≠ .bool true := fun hc => h (congrArg Value.kind hc)
    exact Nat.eq_zero_of_not_pos (mt C.rounds_pos_iff.1 hc)

/-- The body of the branch and the loop would never end. The variable `u` is bound to `undefined`,
so that it can be assigned what is undefined. -/
theorem fault_leaves_store_neverEnding :
    let env := (Store.empty.declare "x" (.int 4)).declare "u" .undefined
    let m := Machine.start Log.empty
    let c := Expr.binary .eq (.var "x") (.bool true)
    let body := whileDo (.bool true) (print (.var "x"))
    (assign "y" (.num 1)).Runs m env
        (m.feed [.diagnostic ⟨.undeclared "y", (assign "y" (.num 1)).text⟩], env) ∧
      (assign "x" (.bool false)).Runs m env
        (m.feed [.diagnostic ⟨.kindMismatch "x" .int .bool, (assign "x" (.bool false)).text⟩],
          env) ∧
      (assign "u" c).Runs m env (m, env) ∧
      (ifElse c body body).Runs m env
        (m.feed [.diagnostic ⟨.nonBoolean "if" .undefined, "if " ++ c.text⟩], env) ∧
      (whileDo c body).Runs m env
        (m.feed [.diagnostic ⟨.nonBoolean "while" .undefined, "while " ++ c.text⟩], env) := by
  intro env m c body
  have hc : (c.eval env).kind ≠ .bool := by decide +kernel
  obtain ⟨hassign, hif, hwhile⟩ := fault_leaves_store (σ := Log) env
  refine ⟨?_, ?_, ?_, (hif c body body hc m _).2 rfl, ((hwhile c body hc).1 m _).2 rfl⟩
  · obtain ⟨es, env', hruns, -, hunbound, -⟩ := hassign "y" (.num 1)
    obtain ⟨rfl, rfl⟩ := hunbound (by decide +kernel)
    exact (hruns m _).2 rfl
  · obtain ⟨es, env', hruns, -, -, hkind, -⟩ := hassign "x" (.bool false)
    obtain ⟨rfl, rfl⟩ := hkind (.int 4) (by decide +kernel) (by decide)
    exact (hruns m _).2 rfl
  · obtain ⟨es, env', hruns, -, -, -, hsame⟩ := hassign "u" c
    obtain ⟨rfl, hget⟩ := hsame .undefined (by decide +kernel) (by decide +kernel)
    have henv : env' = env := by
      apply Store.ext_get?
      intro y
      rw [hget, Store.get?_declare]
      split
      · decide +kernel
      · rfl
    exact (hruns m _).2 (henv ▸ rfl)

end Stmt

end WhileLang
