import WhileLang.Proofs.Checking
import WhileLang.Proofs.Twins
import WhileLang.Stmt.Shape

namespace WhileLang

/-- One event, up to the code that a diagnostic quotes. -/
inductive Event.Alike : Event → Event → Prop
  | line (text : String) : Alike (.line text) (.line text)
  | diagnostic (fault : Fault) (c d : String) :
    Alike (.diagnostic ⟨fault, c⟩) (.diagnostic ⟨fault, d⟩)

namespace Expr

/-- No written parentheses. -/
def Bare : Expr → Prop
  | num _ => True
  | bool _ => True
  | var _ => True
  | not e => e.Bare
  | group _ => False
  | binary _ l r => l.Bare ∧ r.Bare

theorem bare_ungroup (e : Expr) : e.ungroup.Bare := by
  induction e with
  | num n => trivial
  | bool b => trivial
  | var x => trivial
  | not e ih => exact ih
  | group e ih => exact ih
  | binary op l r ihl ihr => exact ⟨ihl, ihr⟩

theorem sameOn_ungroup (e : Expr) : e.SameOn Set.univ e.ungroup := by
  intro env₁ env₂ henv
  rw [henv.eq_of_univ, eval_ungroup]

end Expr

namespace Stmt

/-- No written parentheses or braces, also in bodies. -/
def Bare : Stmt → Prop
  | seq s t => s.Bare ∧ t.Bare
  | declare _ e => e.Bare
  | assign _ e => e.Bare
  | whileDo c body => c.Bare ∧ body.Bare
  | ifElse c s t => c.Bare ∧ s.Bare ∧ t.Bare
  | print e => e.Bare
  | block _ => False

theorem Bare.append {s t : Stmt} (hs : s.Bare) (ht : t.Bare) : (s.append t).Bare := by
  fun_induction Stmt.append s t with
  | case1 t a b ih => exact ⟨hs.1, ih hs.2 ht⟩
  | case2 s t => exact ⟨hs, ht⟩

theorem bare_plain (s : Stmt) : s.plain.Bare := by
  induction s with
  | seq s t ihs iht => exact ihs.append iht
  | declare x e => exact e.bare_ungroup
  | assign x e => exact e.bare_ungroup
  | whileDo c body ih => exact ⟨c.bare_ungroup, ih⟩
  | ifElse c s t ihs iht => exact ⟨c.bare_ungroup, ihs, iht⟩
  | print e => exact e.bare_ungroup
  | block s ih => exact ih

theorem rightNested_plain (s : Stmt) : s.plain.RightNested := by
  induction s with
  | seq s t ihs iht => exact ihs.append iht
  | declare x e => trivial
  | assign x e => trivial
  | whileDo c body ih => exact ih
  | ifElse c s t ihs iht => exact ⟨ihs, iht⟩
  | print e => trivial
  | block s ih => exact ih

section Checking

variable {sc : Scoping}

theorem check_append (s t : Stmt) : (s.append t).check sc = (seq s t).check sc := by
  fun_induction append s t with
  | case1 t a b ih =>
    funext Γ
    rw [check, ih, check, check, Checked.andThen_assoc]
    rfl
  | case2 s t => rfl

theorem check_plain (s : Stmt) : s.plain.check sc = s.check sc := by
  induction s with
  | seq s t ihs iht =>
    funext Γ
    rw [plain, check_append, check, check, ihs, iht]
  | declare x e =>
    funext Γ
    rw [plain, check_declare, check_declare, Expr.infer_ungroup]
  | assign x e =>
    funext Γ
    rw [plain, check, check, Expr.infer_ungroup]
  | whileDo c body ih =>
    funext Γ
    rw [plain, check, check, Expr.infer_ungroup, ih]
  | ifElse c s t ihs iht =>
    funext Γ
    rw [plain, check, check, Expr.infer_ungroup, ihs, iht]
  | print e =>
    funext Γ
    rw [plain, check, check, Expr.infer_ungroup]
  | block s ih => exact ih

end Checking

variable {σ τ : Type} [Sink σ] [Sink τ]

theorem exec_append (k : Nat) (s t : Stmt) :
    ((s.append t).exec k : Machine σ → Store → _) = (seq s t).exec k := by
  fun_induction append s t with
  | case1 t a b ih =>
    funext m env
    rw [exec_seq, ih, exec_seq, exec_seq, Option.bind_assoc]
    rfl
  | case2 s t => rfl

theorem exec_renest (k : Nat) (s : Stmt) :
    (s.renest.exec k : Machine σ → Store → _) = s.exec k := by
  induction s with
  | seq s t ihs iht =>
    funext m env
    rw [renest, exec_append, exec_seq, exec_seq, ihs, iht]
  | declare x e => rfl
  | assign x e => rfl
  | whileDo c body ih =>
    funext m env
    rw [renest, exec_whileDo, exec_whileDo, ih]
  | ifElse c s t ihs iht =>
    funext m env
    rw [renest, exec_ifElse, exec_ifElse, ihs, iht]
  | print e => rfl
  | block s ih => exact ih

theorem matches_plain (k : Nat) (s : Stmt) :
    Matches σ τ Event.Alike Set.univ k s s.plain := by
  induction s with
  | seq s t ihs iht =>
    intro m₁ m₂ env₁ env₂ henv
    rw [plain, exec_append]
    exact ihs.seq iht m₁ m₂ env₁ env₂ henv
  | declare x e => exact .declare x e.sameOn_ungroup
  | assign x e => exact .assign (Set.mem_univ x) e.sameOn_ungroup fun _ => .diagnostic _ _ _
  | whileDo c body ih => exact .whileDo c.sameOn_ungroup (fun _ => .diagnostic _ _ _) ih
  | ifElse c s t ihs iht => exact .ifElse c.sameOn_ungroup (fun _ => .diagnostic _ _ _) ihs iht
  | print e => exact .print e.sameOn_ungroup .line
  | block s ih => exact ih

/-- Written parentheses and braces and the nesting of sequences have no meaning. Without them a
statement runs and checks as before, and only what a diagnostic quotes may change; nesting sequences
anew does not even change that. -/
theorem plain_equivalent (s : Stmt) :
    s.plain.Bare ∧ s.plain.RightNested ∧
      (∀ (m : Machine σ) (env : Store),
        ((∃ r, s.Runs m env r) ↔ ∃ r, s.plain.Runs m env r) ∧
          ∀ m₁ m₂ env₁ env₂, s.Runs m env (m₁, env₁) → s.plain.Runs m env (m₂, env₂) →
            env₁ = env₂ ∧ ∃ es fs, m₁ = m.feed es ∧ m₂ = m.feed fs ∧
              List.Forall₂ Event.Alike es fs) ∧
      (∀ sc Γ, s.plain.check sc Γ = s.check sc Γ) ∧
      s.renest.text = s.text ∧
      ∀ (m : Machine σ) (env : Store) r, s.renest.Runs m env r ↔ s.Runs m env r := by
  refine ⟨s.bare_plain, s.rightNested_plain, ?_, ?_, s.text_renest, ?_⟩
  · intro m env
    have hruns := Matches.runs (fun k => matches_plain k s) m m (.refl Set.univ env)
    refine ⟨hruns.1, ?_⟩
    intro m₁ m₂ env₁ env₂ h₁ h₂
    have htwin := hruns.2 _ _ h₁ h₂
    exact ⟨htwin.stores.eq_of_univ, htwin.events⟩
  · intro sc Γ
    rw [check_plain]
  · intro m env r
    rw [Runs, Runs]
    simp only [exec_renest]

theorem plain_equivalent_wrongKind :
    let s := seq (seq (declare "x" (.num 1)) (block (assign "x" (.group (.bool true)))))
      (print (.var "x"))
    let m := Machine.start Log.empty
    ∃ m₁ m₂ env₁ env₂, s.Runs m .empty (m₁, env₁) ∧ s.plain.Runs m .empty (m₂, env₂) ∧
      m₁.out ≠ m₂.out ∧ env₁ = env₂ ∧
      ∃ es fs, m₁ = m.feed es ∧ m₂ = m.feed fs ∧ List.Forall₂ Event.Alike es fs := by
  intro s m
  have h₁ : s.Runs m .empty _ := ⟨0, rfl⟩
  have h₂ : s.plain.Runs m .empty _ := ⟨0, rfl⟩
  exact ⟨_, _, _, _, h₁, h₂, by decide, (plain_equivalent s).2.2.1 m .empty |>.2 _ _ _ _ h₁ h₂⟩

end Stmt

end WhileLang
