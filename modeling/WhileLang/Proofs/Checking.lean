import WhileLang.Proofs.Agreement
import WhileLang.Stmt.Check

namespace WhileLang

namespace Checked

variable {r : Checked} {check : Context → Checked}

theorem andThen_of_verdict (h : r.verdict = true) : r.andThen check = check r.context :=
  if_pos h

theorem andThen_of_not_verdict (h : ¬ r.verdict = true) : r.andThen check = r :=
  if_neg h

theorem andThen_assoc (r : Checked) (f g : Context → Checked) :
    (r.andThen f).andThen g = r.andThen fun Γ => (f Γ).andThen g := by
  by_cases h : r.verdict = true
  · rw [andThen_of_verdict h, andThen_of_verdict h]
  · rw [andThen_of_not_verdict h, andThen_of_not_verdict h, andThen_of_not_verdict h]

theorem verdict_andThen :
    (r.andThen check).verdict = true ↔ r.verdict = true ∧ (check r.context).verdict = true := by
  rw [andThen]
  split
  · rename_i h
    exact (and_iff_right h).symm
  · rename_i h
    exact iff_of_false h fun hc => h hc.1

end Checked

namespace Stmt

variable {sc : Scoping} {Γ : Context}

theorem check_declare (sc : Scoping) (x : String) (e : Expr) (Γ : Context) :
    (declare x e).check sc Γ =
      if e.infer Γ = .illTyped then ⟨false, Γ⟩ else ⟨true, Γ.declare x (e.infer Γ)⟩ := by
  rw [check]
  split
  · rename_i h
    rw [if_pos h]
  · rename_i h
    rw [if_neg h]

theorem verdict_whileDo {c : Expr} {body : Stmt} :
    ((whileDo c body).check .nested Γ).verdict = true ↔
      c.infer Γ = .bool ∧ (body.check .nested Γ).verdict = true := by
  rw [check, Checked.verdict_andThen, decide_eq_true_iff]
  rfl

theorem verdict_ifElse {c : Expr} {s t : Stmt} :
    ((ifElse c s t).check .nested Γ).verdict = true ↔
      c.infer Γ = .bool ∧ (s.check .nested Γ).verdict = true ∧
        (t.check .nested Γ).verdict = true := by
  rw [check, Checked.verdict_andThen, Checked.verdict_andThen, decide_eq_true_iff, and_assoc]
  refine and_congr_right fun hc => and_congr_right fun hs => ?_
  rw [Checked.andThen_of_verdict (decide_eq_true hc)]
  rfl

theorem context_whileDo (c : Expr) (body : Stmt) (Γ : Context) :
    ((whileDo c body).check .nested Γ).context = Γ := by
  rw [check, Checked.andThen]
  split <;> rfl

theorem context_ifElse (c : Expr) (s t : Stmt) (Γ : Context) :
    ((ifElse c s t).check .nested Γ).context = Γ := by
  have hc : (Checked.andThen ⟨c.infer Γ = .bool, Γ⟩ (Scoping.nested.body (s.check .nested))).context
      = Γ := by
    rw [Checked.andThen]
    split <;> rfl
  rw [check, Checked.andThen]
  split
  · exact hc
  · exact hc

/-- Every equation that the check meets has a side with a proper type. What the check does not
reach after a failure is not asked for. -/
def EqTyped (sc : Scoping) : Stmt → Context → Prop
  | seq s t, Γ =>
    s.EqTyped sc Γ ∧ ((s.check sc Γ).verdict = true → t.EqTyped sc (s.check sc Γ).context)
  | declare _ e, Γ => e.EqTyped Γ
  | assign x e, Γ => Γ.contains x = true → e.EqTyped Γ
  | whileDo c body, Γ => c.EqTyped Γ ∧ (c.infer Γ = .bool → body.EqTyped sc Γ)
  | ifElse c s t, Γ =>
    c.EqTyped Γ ∧ (c.infer Γ = .bool → s.EqTyped sc Γ ∧
      ((s.check sc Γ).verdict = true → t.EqTyped sc (sc.body (s.check sc) Γ).context))
  | print e, Γ => e.EqTyped Γ
  | block s, Γ => s.EqTyped sc Γ

instance decidableEqTyped (sc : Scoping) : (s : Stmt) → (Γ : Context) → Decidable (s.EqTyped sc Γ)
  | seq s t, Γ =>
    have := decidableEqTyped sc s Γ
    have := decidableEqTyped sc t (s.check sc Γ).context
    inferInstanceAs (Decidable (_ ∧ (_ → _)))
  | declare _ e, Γ => inferInstanceAs (Decidable (e.EqTyped Γ))
  | assign x e, Γ => inferInstanceAs (Decidable (Γ.contains x = true → e.EqTyped Γ))
  | whileDo c body, Γ =>
    have := decidableEqTyped sc body Γ
    inferInstanceAs (Decidable (c.EqTyped Γ ∧ (c.infer Γ = .bool → body.EqTyped sc Γ)))
  | ifElse c s t, Γ =>
    have := decidableEqTyped sc s Γ
    have := decidableEqTyped sc t (sc.body (s.check sc) Γ).context
    inferInstanceAs (Decidable (c.EqTyped Γ ∧ (c.infer Γ = .bool → s.EqTyped sc Γ ∧
      ((s.check sc Γ).verdict = true → t.EqTyped sc (sc.body (s.check sc) Γ).context))))
  | print e, Γ => inferInstanceAs (Decidable (e.EqTyped Γ))
  | block s, Γ => decidableEqTyped sc s Γ

end Stmt

end WhileLang
