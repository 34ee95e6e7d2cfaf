import WhileLang.Gallery
import WhileLang.Proofs.Checking
import WhileLang.Proofs.Events
import WhileLang.Proofs.Run

namespace WhileLang

/-- The line of a value that is not undefined. -/
def Event.ShowsValue (e : Event) : Prop :=
  ∃ text, e = .line text ∧ text ≠ "Undefined"

theorem Context.Agrees.assign {Γ : Context} {env : Store} {x : String} {τ : Ty} {v : Value}
    (h : Γ.Agrees env) (hx : Γ.get? x = some τ) (hv : v.HasType τ) :
    env.assign x v = .ok (env.declare x v) := by
  obtain ⟨w, hw, hwτ⟩ := h.value hx
  exact Store.assign_eq_ok_iff.2 ⟨by rw [Store.kind?_of_get? hw, hwτ.kind_eq hv], rfl⟩

theorem Value.HasType.bool_kind {v : Value} (h : v.HasType .bool) : v.kind = .bool :=
  h.kind_eq (.bool true)

namespace Stmt

variable {σ : Type} [Sink σ] {m m' : Machine σ} {env env' : Store} {Γ : Context}

theorem kind_of_condition {c : Expr} (hag : Γ.Agrees env) (heq : c.EqTyped Γ)
    (hc : c.infer Γ = .bool) : (c.eval env).kind = .bool := by
  have hv := c.eval_hasType hag.fits heq (by rw [hc]; exact nofun)
  rw [hc] at hv
  exact hv.bool_kind

theorem exec_sound {k : Nat} {s : Stmt} (hag : Γ.Agrees env)
    (hv : (s.check .nested Γ).verdict = true) (heq : s.EqTyped .nested Γ)
    (h : s.exec k m env = some (m', env')) :
    m.Emits Event.ShowsValue m' ∧ (s.check .nested Γ).context.Agrees env' := by
  induction s generalizing Γ m env m' env' with
  | seq s t ihs iht =>
    obtain ⟨m₁, env₁, hs, ht⟩ := exec_seq_cases h
    obtain ⟨hvs, hvt⟩ := Checked.verdict_andThen.1 hv
    obtain ⟨hem, hag₁⟩ := ihs hag hvs heq.1 hs
    obtain ⟨hem', hag'⟩ := iht hag₁ hvt (heq.2 hvs) ht
    rw [check, Checked.andThen_of_verdict hvs]
    exact ⟨hem.trans hem', hag'⟩
  | declare x e =>
    cases h
    rw [check_declare] at hv ⊢
    by_cases he : e.infer Γ = .illTyped
    · rw [if_pos he] at hv
      cases hv
    · rw [if_neg he]
      exact ⟨.refl _ _, hag.declare x (e.eval_hasType hag.fits heq he)⟩
  | assign x e =>
    have hx : Γ.get? x = some (e.infer Γ) := of_decide_eq_true hv
    have he : e.infer Γ ≠ .illTyped := fun hi => hag.typed x (hi ▸ hx)
    have hvτ := e.eval_hasType hag.fits (heq (Context.contains_iff_exists.2 ⟨_, hx⟩)) he
    rcases exec_assign_cases h with ⟨hok, rfl⟩ | ⟨fault, herr, -, -⟩
    · exact ⟨.refl _ _, hag.of_kind? (Store.kind?_of_assign hok)⟩
    · rw [hag.assign hx hvτ] at herr
      cases herr
  | whileDo c body ih =>
    obtain ⟨hc, hvb⟩ := verdict_whileDo.1 hv
    have hround : ∀ m₁ m₂ i₁ i₂, m.Emits Event.ShowsValue m₁ ∧ Γ.Agrees i₁ →
        c.eval i₁ = .bool true → body.exec k m₁ i₁ = some (m₂, i₂) →
        m.Emits Event.ShowsValue m₂ ∧ Γ.Agrees (env.merge i₂) := by
      intro m₁ m₂ i₁ i₂ hP _ hb
      have hem := (ih hP.2 hvb (heq.2 hc) hb).1
      exact ⟨hP.1.trans hem, hag.merge i₂⟩
    obtain ⟨inner, hinner, rfl⟩ :=
      exec_whileDo_invariant (P := fun m₁ i => m.Emits Event.ShowsValue m₁ ∧ Γ.Agrees i) h
        ⟨.refl _ _, hag⟩ hround
        (fun _ _ hP hk => absurd (kind_of_condition hP.2 heq.1 hc) hk)
    rw [context_whileDo]
    exact ⟨hinner.1, hag.merge inner⟩
  | ifElse c s t ihs iht =>
    obtain ⟨hc, hvs, hvt⟩ := verdict_ifElse.1 hv
    obtain ⟨heqc, heqb⟩ := heq
    obtain ⟨heqs, heqt⟩ := heqb hc
    obtain ⟨inner, rfl, hcases⟩ := exec_ifElse_cases h
    rw [context_ifElse]
    have hem : m.Emits Event.ShowsValue m' := by
      rcases hcases with ⟨-, hs⟩ | ⟨-, ht⟩ | ⟨hk, -, -⟩
      · exact (ihs hag hvs heqs hs).1
      · exact (iht hag hvt (heqt hvs) ht).1
      · exact absurd (kind_of_condition hag heqc hc) hk
    exact ⟨hem, hag.merge inner⟩
  | print e =>
    cases h
    have he : e.infer Γ ≠ .illTyped := of_decide_eq_true hv
    have hvτ := e.eval_hasType hag.fits heq he
    rw [Machine.printValue_eq_record]
    exact ⟨.record m ⟨_, rfl, hvτ.text_ne⟩, hag⟩
  | block s ih => exact ih hag hv heq h

/-- A statement that the nested mode accepts runs without a diagnostic and shows no undefined value,
and the types it leaves agree again with the store it leaves. -/
theorem Runs.shows_values_of_check {s : Stmt} (hag : Γ.Agrees env)
    (hv : (s.check .nested Γ).verdict = true) (heq : s.EqTyped .nested Γ)
    (h : s.Runs m env (m', env')) :
    (∃ es, m' = m.feed es ∧ ∀ e ∈ es, ∃ text, e = .line text ∧ text ≠ "Undefined") ∧
      (s.check .nested Γ).context.Agrees env' := by
  obtain ⟨k, hk⟩ := h
  exact exec_sound hag hv heq hk

/-- Count to three with an equation for the condition; the second round declares the counter anew
as a truth value. -/
def countToThree : Stmt :=
  chain (.declare "x" (.num 0)) [
    .whileDo (.not (.binary .eq (.var "x") (.num 3)))
      (chain (.ifElse (.binary .eq (.var "x") (.num 1))
        (chain (.declare "x" (.bool true)) [.print (.var "x")])
        (.print (.var "x"))) [.assign "x" (.binary .add (.var "x") (.num 1))])]

theorem Runs.shows_values_countToThree :
    (countToThree.check .nested .empty).verdict = true ∧ countToThree.EqTyped .nested .empty ∧
      ∃ m' env', countToThree.Runs (.start Log.empty) .empty (m', env') ∧
        (∃ es, m' = (Machine.start Log.empty).feed es ∧
          ∀ e ∈ es, ∃ text, e = .line text ∧ text ≠ "Undefined") ∧
        (countToThree.check .nested .empty).context.Agrees env' := by
  have hv : (countToThree.check .nested .empty).verdict = true := by decide
  have heq : countToThree.EqTyped .nested .empty := by decide
  have hag : Context.empty.Agrees .empty :=
    ⟨fun x => by rw [Context.get?_empty]; exact nofun,
      fun x _ hx => by rw [Context.get?_empty] at hx; cases hx⟩
  have hends : (countToThree.exec 4 (.start Log.empty) .empty).isSome := by decide
  obtain ⟨⟨m', env'⟩, h⟩ := Option.isSome_iff_exists.1 hends
  exact ⟨hv, heq, m', env', ⟨4, h⟩, Runs.shows_values_of_check hag hv heq ⟨4, h⟩⟩

end Stmt

end WhileLang
