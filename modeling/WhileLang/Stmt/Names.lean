import WhileLang.Expr.Eval
import WhileLang.Expr.Infer
import WhileLang.Stmt.Basic

namespace WhileLang

namespace Expr

/-- The variables that an expression reads. -/
def names : Expr → List String
  | num _ => []
  | bool _ => []
  | var x => [x]
  | not e => e.names
  | group e => e.names
  | binary _ l r => l.names ++ r.names

theorem denote_congr {ρ ρ' : String → Value} {e : Expr} (h : ∀ x ∈ e.names, ρ x = ρ' x) :
    e.denote ρ = e.denote ρ' := by
  induction e with
  | num n => rfl
  | bool b => rfl
  | var x => exact h x List.mem_cons_self
  | not e ih => exact congrArg Value.not (ih h)
  | group e ih => exact ih h
  | binary op l r ihl ihr =>
    have hl := ihl fun x hx => h x (List.mem_append_left _ hx)
    have hr := ihr fun x hx => h x (List.mem_append_right _ hx)
    simp only [denote, hl, hr]

theorem eval_congr {s t : Store} {e : Expr} (h : ∀ x ∈ e.names, s.get? x = t.get? x) :
    e.eval s = e.eval t :=
  denote_congr fun x hx => by rw [Store.value, Store.value, h x hx]

theorem infer_congr {Γ Δ : Context} {e : Expr} (h : ∀ x ∈ e.names, Γ.get? x = Δ.get? x) :
    e.infer Γ = e.infer Δ := by
  induction e with
  | num n => rfl
  | bool b => rfl
  | var x => exact congrArg (Option.getD · .illTyped) (h x List.mem_cons_self)
  | not e ih => exact congrArg Ty.not (ih h)
  | group e ih => exact ih h
  | binary op l r ihl ihr =>
    have hl := ihl fun x hx => h x (List.mem_append_left _ hx)
    have hr := ihr fun x hx => h x (List.mem_append_right _ hx)
    simp only [infer, hl, hr]

end Expr

namespace Stmt

/-- The variables that occur in a statement: those it reads, assigns or declares. -/
def names : Stmt → List String
  | seq s t => s.names ++ t.names
  | declare x e => x :: e.names
  | assign x e => x :: e.names
  | whileDo c body => c.names ++ body.names
  | ifElse c s t => c.names ++ s.names ++ t.names
  | print e => e.names
  | block s => s.names

/-- The targets of the declarations, those in bodies among them. -/
def declared : Stmt → List String
  | seq s t => s.declared ++ t.declared
  | declare x _ => [x]
  | assign _ _ => []
  | whileDo _ body => body.declared
  | ifElse _ s t => s.declared ++ t.declared
  | print _ => []
  | block s => s.declared

/-- The targets of the declarations that stand in no body of a loop or a branch. -/
def declaredOutside : Stmt → List String
  | seq s t => s.declaredOutside ++ t.declaredOutside
  | declare x _ => [x]
  | assign _ _ => []
  | whileDo _ _ => []
  | ifElse _ _ _ => []
  | print _ => []
  | block s => s.declaredOutside

/-- The targets of the assignments, those in bodies among them. -/
def assigned : Stmt → List String
  | seq s t => s.assigned ++ t.assigned
  | declare _ _ => []
  | assign x _ => [x]
  | whileDo _ body => body.assigned
  | ifElse _ s t => s.assigned ++ t.assigned
  | print _ => []
  | block s => s.assigned

theorem declaredOutside_subset (s : Stmt) : s.declaredOutside ⊆ s.declared := by
  induction s with
  | seq s t ihs iht =>
    intro x hx
    rcases List.mem_append.1 hx with h | h
    · exact List.mem_append_left _ (ihs h)
    · exact List.mem_append_right _ (iht h)
  | declare x e => exact List.Subset.refl _
  | assign x e => exact List.nil_subset _
  | whileDo c body => exact List.nil_subset _
  | ifElse c s t => exact List.nil_subset _
  | print e => exact List.nil_subset _
  | block s ih => exact ih

theorem declared_subset_names (s : Stmt) : s.declared ⊆ s.names := by
  induction s with
  | seq s t ihs iht =>
    apply List.append_subset.2
    exact ⟨List.subset_append_of_subset_left _ ihs, List.subset_append_of_subset_right _ iht⟩
  | declare x e => exact List.cons_subset_cons x (List.nil_subset _)
  | assign x e => exact List.nil_subset _
  | whileDo c body ih => exact List.subset_append_of_subset_right _ ih
  | ifElse c s t ihs iht =>
    apply List.append_subset.2
    have hs := List.subset_append_of_subset_right c.names ihs
    exact ⟨List.subset_append_of_subset_left _ hs, List.subset_append_of_subset_right _ iht⟩
  | print e => exact List.nil_subset _
  | block s ih => exact ih

theorem assigned_subset_names (s : Stmt) : s.assigned ⊆ s.names := by
  induction s with
  | seq s t ihs iht =>
    apply List.append_subset.2
    exact ⟨List.subset_append_of_subset_left _ ihs, List.subset_append_of_subset_right _ iht⟩
  | declare x e => exact List.nil_subset _
  | assign x e => exact List.cons_subset_cons x (List.nil_subset _)
  | whileDo c body ih => exact List.subset_append_of_subset_right _ ih
  | ifElse c s t ihs iht =>
    apply List.append_subset.2
    have hs := List.subset_append_of_subset_right c.names ihs
    exact ⟨List.subset_append_of_subset_left _ hs, List.subset_append_of_subset_right _ iht⟩
  | print e => exact List.nil_subset _
  | block s ih => exact ih

end Stmt

end WhileLang
