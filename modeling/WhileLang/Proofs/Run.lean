import WhileLang.Stmt.Exec

namespace WhileLang

variable {σ : Type} [Sink σ]

theorem iterate_invariant {α : Type} {round : α → Option (Round α)} {P : α → Prop}
    (hagain : ∀ a b, P a → round a = some (.again b) → P b)
    (hdone : ∀ a b, P a → round a = some (.done b) → P b) {bound : Nat} {a b : α}
    (ha : P a) (h : iterate round bound a = some b) : P b := by
  induction bound generalizing a with
  | zero => cases h
  | succ bound ih =>
    rw [iterate] at h
    split at h
    · rename_i c hc
      exact ih (hagain a c ha hc) h
    · rename_i c hc
      cases h
      exact hdone a b ha hc
    · cases h

theorem Value.truth_cases (v : Value) : v = .bool true ∨ v = .bool false ∨ v.kind ≠ .bool := by
  cases v with
  | int n => exact .inr (.inr nofun)
  | bool b => cases b <;> simp
  | undefined => exact .inr (.inr nofun)

theorem branch_of_kind {c : Expr} {yes no : Machine σ → Store → Option (Machine σ × Store)}
    {m : Machine σ} {env : Store} (h : (c.eval env).kind ≠ .bool) :
    branch c yes no m env = some (m.report (.condition "if" c (c.eval env).kind), env) := by
  rw [branch]
  split
  · rename_i hc
    exact absurd (congrArg Value.kind hc) h
  · rename_i hc
    exact absurd (congrArg Value.kind hc) h
  · rfl

section Rounds

variable {c : Expr} {body : Machine σ → Store → Option (Machine σ × Store)} {outer inner : Store}
  {m : Machine σ}

theorem loopRound_of_true (h : c.eval inner = .bool true) :
    loopRound c body outer (m, inner) =
      ((body m inner).map fun r => (r.1, outer.merge r.2)).map .again := by
  rw [loopRound, h]
  cases body m inner <;> rfl

theorem loopRound_of_false (h : c.eval inner = .bool false) :
    loopRound c body outer (m, inner) = some (.done (m, inner)) := by
  rw [loopRound, h]

theorem loopRound_of_kind (h : (c.eval inner).kind ≠ .bool) :
    loopRound c body outer (m, inner) =
      some (.done (m.report (.condition "while" c (c.eval inner).kind), inner)) := by
  rw [loopRound]
  split
  · rename_i hc
    exact absurd (congrArg Value.kind hc) h
  · rename_i hc
    exact absurd (congrArg Value.kind hc) h
  · rfl

theorem loopRound_cases {r : Round (Machine σ × Store)}
    (h : loopRound c body outer (m, inner) = some r) :
    (c.eval inner = .bool true ∧ ∃ m₂ i₂, body m inner = some (m₂, i₂) ∧
        r = .again (m₂, outer.merge i₂)) ∨
      (c.eval inner = .bool false ∧ r = .done (m, inner)) ∨
      ((c.eval inner).kind ≠ .bool ∧
        r = .done (m.report (.condition "while" c (c.eval inner).kind), inner)) := by
  rcases (c.eval inner).truth_cases with hc | hc | hc
  · rw [loopRound_of_true hc] at h
    obtain ⟨_, hmerged, rfl⟩ := Option.map_eq_some_iff.1 h
    obtain ⟨⟨m₂, i₂⟩, hb, rfl⟩ := Option.map_eq_some_iff.1 hmerged
    exact .inl ⟨hc, m₂, i₂, hb, rfl⟩
  · rw [loopRound_of_false hc] at h
    exact .inr (.inl ⟨hc, (Option.some.inj h).symm⟩)
  · rw [loopRound_of_kind hc] at h
    exact .inr (.inr ⟨hc, (Option.some.inj h).symm⟩)

end Rounds

namespace Stmt

variable {k : Nat} {m m' : Machine σ} {env env' : Store}

theorem exec_seq (k : Nat) (s t : Stmt) (m : Machine σ) (env : Store) :
    (seq s t).exec k m env = (s.exec k m env).bind fun r => t.exec k r.1 r.2 := rfl

theorem exec_ifElse (k : Nat) (c : Expr) (s t : Stmt) (m : Machine σ) (env : Store) :
    (ifElse c s t).exec k m env =
      (branch c (s.exec k) (t.exec k) m env).map fun r => (r.1, env.merge r.2) := by
  rw [exec]
  cases branch c (s.exec k) (t.exec k) m env with
  | none => rfl
  | some r => exact congrArg (fun env' => some (r.1, env')) (Store.reconcile_eq_merge env r.2)

theorem exec_whileDo (k : Nat) (c : Expr) (body : Stmt) (m : Machine σ) (env : Store) :
    (whileDo c body).exec k m env =
      (iterate (loopRound c (body.exec k) env) k (m, env)).map fun r => (r.1, env.merge r.2) := by
  rw [exec]
  cases iterate (loopRound c (body.exec k) env) k (m, env) with
  | none => rfl
  | some r => exact congrArg (fun env' => some (r.1, env')) (Store.reconcile_eq_merge env r.2)

theorem exec_seq_cases {s t : Stmt} {r : Machine σ × Store}
    (h : (seq s t).exec k m env = some r) :
    ∃ m₁ env₁, s.exec k m env = some (m₁, env₁) ∧ t.exec k m₁ env₁ = some r := by
  obtain ⟨⟨m₁, env₁⟩, hs, ht⟩ := Option.bind_eq_some_iff.1 h
  exact ⟨m₁, env₁, hs, ht⟩

theorem exec_assign_cases {x : String} {e : Expr}
    (h : (assign x e).exec k m env = some (m', env')) :
    (env.assign x (e.eval env) = .ok env' ∧ m' = m) ∨
      ∃ fault, env.assign x (e.eval env) = .error fault ∧ env' = env ∧
        m' = m.report ⟨fault, (assign x e).text⟩ := by
  rw [exec] at h
  split at h
  · rename_i hok
    cases h
    exact .inl ⟨hok, rfl⟩
  · rename_i fault herr
    cases h
    exact .inr ⟨fault, herr, rfl, rfl⟩

theorem exec_ifElse_cases {c : Expr} {s t : Stmt}
    (h : (ifElse c s t).exec k m env = some (m', env')) :
    ∃ inner, env' = env.merge inner ∧
      ((c.eval env = .bool true ∧ s.exec k m env = some (m', inner)) ∨
        (c.eval env = .bool false ∧ t.exec k m env = some (m', inner)) ∨
        ((c.eval env).kind ≠ .bool ∧ inner = env ∧
          m' = m.report (.condition "if" c (c.eval env).kind))) := by
  rw [exec_ifElse] at h
  obtain ⟨⟨m₁, inner⟩, hb, hr⟩ := Option.map_eq_some_iff.1 h
  obtain ⟨rfl, rfl⟩ := Prod.mk.inj hr
  refine ⟨inner, rfl, ?_⟩
  rcases (c.eval env).truth_cases with hc | hc | hc
  · rw [branch, hc] at hb
    exact .inl ⟨hc, hb⟩
  · rw [branch, hc] at hb
    exact .inr (.inl ⟨hc, hb⟩)
  · rw [branch_of_kind hc] at hb
    obtain ⟨rfl, rfl⟩ := Prod.mk.inj (Option.some.inj hb)
    exact .inr (.inr ⟨hc, rfl, rfl⟩)

/-- What holds on entry to a loop, is kept by its rounds and by the report of a condition that is no
truth value, holds of the loop's own store at the end. -/
theorem exec_whileDo_invariant {c : Expr} {body : Stmt} {P : Machine σ → Store → Prop}
    (h : (whileDo c body).exec k m env = some (m', env')) (hentry : P m env)
    (hround : ∀ m₁ m₂ i₁ i₂, P m₁ i₁ → c.eval i₁ = .bool true →
      body.exec k m₁ i₁ = some (m₂, i₂) → P m₂ (env.merge i₂))
    (hstop : ∀ m₁ i₁, P m₁ i₁ → (c.eval i₁).kind ≠ .bool →
      P (m₁.report (.condition "while" c (c.eval i₁).kind)) i₁) :
    ∃ inner, P m' inner ∧ env' = env.merge inner := by
  rw [exec_whileDo] at h
  obtain ⟨⟨m₁, inner⟩, hi, hr⟩ := Option.map_eq_some_iff.1 h
  obtain ⟨rfl, rfl⟩ := Prod.mk.inj hr
  have hinner : P m₁ inner := by
    apply iterate_invariant (P := fun a => P a.1 a.2) _ _ hentry hi
    · intro a b hP hagain
      rcases loopRound_cases hagain with ⟨hc, m₂, i₂, hb, he⟩ | ⟨-, he⟩ | ⟨-, he⟩
      · cases he
        exact hround _ _ _ _ hP hc hb
      · cases he
      · cases he
    · intro a b hP hdone
      rcases loopRound_cases hdone with ⟨-, _, _, -, he⟩ | ⟨-, he⟩ | ⟨hc, he⟩
      · cases he
      · cases he
        exact hP
      · cases he
        exact hstop _ _ hP hc
  exact ⟨inner, hinner, rfl⟩

end Stmt

end WhileLang
