import WhileLang.Loop
import WhileLang.Machine
import WhileLang.Expr.Eval
import WhileLang.Stmt.Printer

namespace WhileLang

variable {σ : Type} [Sink σ]

/-- The diagnostic for a condition that is no truth value. -/
def Diagnostic.condition (construct : String) (c : Expr) (k : Kind) : Diagnostic :=
  ⟨.nonBoolean construct k, construct ++ " " ++ c.text⟩

/-- Run the branch that a condition chooses, or none of the two. -/
def branch (c : Expr) (yes no : Machine σ → Store → Option (Machine σ × Store))
    (m : Machine σ) (env : Store) : Option (Machine σ × Store) :=
  match c.eval env with
  | .bool true => yes m env
  | .bool false => no m env
  | v => some (m.report (.condition "if" c v.kind), env)

/-- One round of a loop that was entered with the store `outer`. The body runs on the loop's own
store, and the next round sees what that store settles on with `outer`. -/
def loopRound (c : Expr) (body : Machine σ → Store → Option (Machine σ × Store)) (outer : Store) :
    Machine σ × Store → Option (Round (Machine σ × Store))
  | (m, inner) =>
    match c.eval inner with
    | .bool true => do
      let (m, inner) ← body m inner
      return .again (m, outer.merge inner)
    | .bool false => some (.done (m, inner))
    | v => some (.done (m.report (.condition "while" c v.kind), inner))

namespace Stmt

/-- Run a statement. The result is `none` when some loop is not done after `bound` rounds. -/
def exec (bound : Nat) : Stmt → Machine σ → Store → Option (Machine σ × Store)
  | seq s t, m, env => do
    let (m, env) ← s.exec bound m env
    t.exec bound m env
  | declare x e, m, env => some (m, env.declare x (e.eval env))
  | assign x e, m, env =>
    match env.assign x (e.eval env) with
    | .ok env => some (m, env)
    | .error fault => some (m.report ⟨fault, (assign x e).text⟩, env)
  | whileDo c body, m, env => do
    let (m, inner) ← iterate (loopRound c (body.exec bound) env) bound (m, env)
    return (m, env.reconcile inner)
  | ifElse c s t, m, env => do
    let (m, inner) ← branch c (s.exec bound) (t.exec bound) m env
    return (m, env.reconcile inner)
  | print e, m, env => some (m.printValue (e.eval env), env)
  | block s, m, env => s.exec bound m env

/-- The run ends: some bound is enough for all of its loops. -/
def Runs (s : Stmt) (m : Machine σ) (env : Store) (r : Machine σ × Store) : Prop :=
  ∃ bound, s.exec bound m env = some r

end Stmt

theorem loopRound_mono {f g : Machine σ → Store → Option (Machine σ × Store)}
    (hfg : ∀ m env r, f m env = some r → g m env = some r) (c : Expr) (outer : Store)
    (a : Machine σ × Store) (r : Round (Machine σ × Store))
    (h : loopRound c f outer a = some r) : loopRound c g outer a = some r := by
  obtain ⟨m, inner⟩ := a
  simp only [loopRound] at h ⊢
  split at h
  · obtain ⟨q, hq, hr⟩ := Option.bind_eq_some_iff.1 h
    exact Option.bind_eq_some_iff.2 ⟨q, hfg _ _ _ hq, hr⟩
  · exact h
  · exact h

namespace Stmt

theorem exec_mono {k n : Nat} (hkn : k ≤ n) (s : Stmt) (m : Machine σ) (env : Store)
    (r : Machine σ × Store) (h : s.exec k m env = some r) : s.exec n m env = some r := by
  induction s generalizing m env r with
  | seq s t ihs iht =>
    obtain ⟨q, hq, hr⟩ := Option.bind_eq_some_iff.1 h
    exact Option.bind_eq_some_iff.2 ⟨q, ihs _ _ _ hq, iht _ _ _ hr⟩
  | declare x e => exact h
  | assign x e => exact h
  | whileDo c body ih =>
    obtain ⟨q, hq, hr⟩ := Option.bind_eq_some_iff.1 h
    exact Option.bind_eq_some_iff.2 ⟨q, iterate_mono (loopRound_mono ih c env) hkn hq, hr⟩
  | ifElse c s t ihs iht =>
    obtain ⟨q, hq, hr⟩ := Option.bind_eq_some_iff.1 h
    refine Option.bind_eq_some_iff.2 ⟨q, ?_, hr⟩
    unfold branch at hq ⊢
    split at hq
    · exact ihs _ _ _ hq
    · exact iht _ _ _ hq
    · exact hq
  | print e => exact h
  | block s ih => exact ih _ _ _ h

theorem Runs.unique {s : Stmt} {m : Machine σ} {env : Store} {q r : Machine σ × Store}
    (hq : s.Runs m env q) (hr : s.Runs m env r) : q = r := by
  obtain ⟨k, hk⟩ := hq
  obtain ⟨n, hn⟩ := hr
  have hk' := s.exec_mono (Nat.le_max_left k n) m env q hk
  have hn' := s.exec_mono (Nat.le_max_right k n) m env r hn
  exact Option.some.inj (hk'.symm.trans hn')

end Stmt

end WhileLang
