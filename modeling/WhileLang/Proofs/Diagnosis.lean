import WhileLang.Proofs.Events
import WhileLang.Proofs.Kinds
import WhileLang.Proofs.Run

namespace WhileLang

/-- A statement with all statements in it. -/
def Stmt.nodes : Stmt → List Stmt
  | seq s t => seq s t :: (s.nodes ++ t.nodes)
  | declare x e => [declare x e]
  | assign x e => [assign x e]
  | whileDo c body => whileDo c body :: body.nodes
  | ifElse c s t => ifElse c s t :: (s.nodes ++ t.nodes)
  | print e => [print e]
  | block s => block s :: s.nodes

/-- What is found wrong with one of the statements, in its own words. -/
inductive Diagnostic.FoundIn (nodes : List Stmt) : Diagnostic → Prop
  | undeclared {x : String} {e : Expr} (h : .assign x e ∈ nodes) :
    FoundIn nodes ⟨.undeclared x, (Stmt.assign x e).text⟩
  | kindMismatch {x : String} {e : Expr} {expected received : Kind} (h : .assign x e ∈ nodes)
    (hk : expected ≠ received) :
    FoundIn nodes ⟨.kindMismatch x expected received, (Stmt.assign x e).text⟩
  | ifElse {c : Expr} {s t : Stmt} {k : Kind} (h : .ifElse c s t ∈ nodes) (hk : k ≠ .bool) :
    FoundIn nodes ⟨.nonBoolean "if" k, "if " ++ c.text⟩
  | whileDo {c : Expr} {body : Stmt} {k : Kind} (h : .whileDo c body ∈ nodes) (hk : k ≠ .bool) :
    FoundIn nodes ⟨.nonBoolean "while" k, "while " ++ c.text⟩

namespace Diagnostic.FoundIn

variable {nodes : List Stmt} {d : Diagnostic}

theorem fault_ne (h : d.FoundIn nodes) : d.fault ≠ .emptySequence := by
  cases h <;> exact nofun

theorem snippet_ne (h : d.FoundIn nodes) : d.snippet ≠ "" := by
  cases h <;> simp [Stmt.text]

end Diagnostic.FoundIn

def Event.FoundIn (nodes : List Stmt) (e : Event) : Prop :=
  ∀ d, e = .diagnostic d → d.FoundIn nodes

theorem Store.assign_foundIn {env : Store} {x : String} {e : Expr} {v : Value} {fault : Fault}
    {nodes : List Stmt} (hs : .assign x e ∈ nodes) (h : env.assign x v = .error fault) :
    Diagnostic.FoundIn nodes ⟨fault, (Stmt.assign x e).text⟩ := by
  rcases assign_error_cases h with ⟨-, rfl⟩ | ⟨w, -, hk, rfl⟩
  · exact .undeclared hs
  · exact .kindMismatch hs hk

variable {σ : Type} [Sink σ]

theorem Machine.report_foundIn {nodes : List Stmt} {d : Diagnostic} (m : Machine σ)
    (h : d.FoundIn nodes) : m.Emits (Event.FoundIn nodes) (m.report d) := by
  apply Emits.record (e := .diagnostic d)
  rintro _ ⟨⟩
  exact h

theorem Machine.printValue_foundIn (nodes : List Stmt) (m : Machine σ) (v : Value) :
    m.Emits (Event.FoundIn nodes) (m.printValue v) := by
  rw [printValue_eq_record]
  exact .record m nofun

namespace Stmt

variable {m m' : Machine σ} {env env' : Store}

theorem exec_foundIn {k : Nat} {s : Stmt} {nodes : List Stmt} (hs : ∀ t ∈ s.nodes, t ∈ nodes)
    (h : s.exec k m env = some (m', env')) : m.Emits (Event.FoundIn nodes) m' := by
  induction s generalizing m env m' env' with
  | seq s t ihs iht =>
    obtain ⟨-, hsub⟩ := List.forall_mem_cons.1 hs
    obtain ⟨hsubs, hsubt⟩ := List.forall_mem_append.1 hsub
    obtain ⟨m₁, env₁, hs, ht⟩ := exec_seq_cases h
    exact (ihs hsubs hs).trans (iht hsubt ht)
  | declare x e =>
    cases h
    exact .refl _ _
  | assign x e =>
    have hself := hs _ List.mem_cons_self
    rcases exec_assign_cases h with ⟨-, rfl⟩ | ⟨fault, herr, -, rfl⟩
    · exact .refl _ _
    · exact m.report_foundIn (Store.assign_foundIn hself herr)
  | whileDo c body ih =>
    obtain ⟨hself, hsub⟩ := List.forall_mem_cons.1 hs
    obtain ⟨inner, hem, -⟩ :=
      exec_whileDo_invariant (P := fun m₁ _ => m.Emits (Event.FoundIn nodes) m₁) h (.refl _ _)
        (fun _ _ _ _ hem _ hb => hem.trans (ih hsub hb))
        (fun m₁ _ hem hk => hem.trans (m₁.report_foundIn (.whileDo hself hk)))
    exact hem
  | ifElse c s t ihs iht =>
    obtain ⟨hself, hsub⟩ := List.forall_mem_cons.1 hs
    obtain ⟨hsubs, hsubt⟩ := List.forall_mem_append.1 hsub
    obtain ⟨inner, -, hcases⟩ := exec_ifElse_cases h
    rcases hcases with ⟨-, hs⟩ | ⟨-, ht⟩ | ⟨hk, -, rfl⟩
    · exact ihs hsubs hs
    · exact iht hsubt ht
    · exact m.report_foundIn (.ifElse hself hk)
  | print e =>
    cases h
    exact m.printValue_foundIn nodes _
  | block s ih =>
    obtain ⟨-, hsub⟩ := List.forall_mem_cons.1 hs
    exact ih hsub h

/-- Every diagnostic of a run is about a statement of the program and quotes it. None is about an
empty sequence, and none quotes nothing. -/
theorem Runs.diagnostics_foundIn {s : Stmt} (h : s.Runs m env (m', env')) :
    ∃ es, m' = m.feed es ∧ ∀ d, .diagnostic d ∈ es →
      d.FoundIn s.nodes ∧ d.fault ≠ .emptySequence ∧ d.snippet ≠ "" := by
  obtain ⟨k, hk⟩ := h
  obtain ⟨es, hm, hes⟩ := exec_foundIn (fun _ ht => ht) hk
  refine ⟨es, hm, ?_⟩
  intro d hd
  have hfound := hes _ hd d rfl
  exact ⟨hfound, hfound.fault_ne, hfound.snippet_ne⟩

/-- One line for each way in which a line can go wrong. -/
def fourFaults : Stmt :=
  chain (.declare "x" (.num 1)) [
    .assign "y" (.num 2),
    .assign "x" (.bool true),
    .ifElse (.var "x") (.print (.var "x")) (.print (.var "y")),
    .whileDo (.var "y") (.print (.var "x"))]

theorem Runs.diagnostics_foundIn_fourFaults :
    let m := Machine.start Log.empty
    ∃ m' env', fourFaults.Runs m .empty (m', env') ∧ m'.diagnostics = 4 ∧
      ∃ es, m' = m.feed es ∧ ∀ d, .diagnostic d ∈ es →
        d.FoundIn fourFaults.nodes ∧ d.fault ≠ .emptySequence ∧ d.snippet ≠ "" := by
  intro m
  have h : fourFaults.Runs m .empty _ := ⟨1, rfl⟩
  exact ⟨_, _, h, rfl, Runs.diagnostics_foundIn h⟩

end Stmt

end WhileLang
