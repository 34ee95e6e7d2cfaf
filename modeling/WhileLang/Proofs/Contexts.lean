import Mathlib.Data.Set.Basic
import WhileLang.Proofs.Checking
import WhileLang.Stmt.Names

namespace WhileLang

/-- The names of `N` read alike in both contexts. -/
def Context.AgreesOn (N : Set String) (Γ Δ : Context) : Prop :=
  ∀ x ∈ N, Γ.get? x = Δ.get? x

namespace Context.AgreesOn

variable {N M : Set String} {Γ Δ : Context}

theorem refl (N : Set String) (Γ : Context) : Γ.AgreesOn N Γ := fun _ _ => rfl

theorem mono (h : Γ.AgreesOn N Δ) (hM : M ⊆ N) : Γ.AgreesOn M Δ := fun x hx => h x (hM hx)

theorem declare (h : Γ.AgreesOn N Δ) (x : String) (τ : Ty) :
    (Γ.declare x τ).AgreesOn N (Δ.declare x τ) := by
  intro y hy
  rw [get?_declare, get?_declare, h y hy]

theorem infer (h : Γ.AgreesOn N Δ) {e : Expr} (he : ∀ x ∈ e.names, x ∈ N) :
    e.infer Γ = e.infer Δ :=
  Expr.infer_congr fun x hx => h x (he x hx)

end Context.AgreesOn

/-- One verdict, and contexts that agree on `N`. -/
structure Checked.Agrees (N : Set String) (r q : Checked) : Prop where
  verdict : r.verdict = q.verdict
  context : r.context.AgreesOn N q.context

namespace Checked

variable {N M : Set String} {r q : Checked} {f g : Context → Checked}

theorem Agrees.of_context {Γ Δ : Context} (h : Γ.AgreesOn N Δ) (verdict : Bool) :
    Agrees N ⟨verdict, Γ⟩ ⟨verdict, Δ⟩ :=
  ⟨rfl, h⟩

theorem Agrees.andThen (h : r.Agrees N q) (hM : M ⊆ N)
    (hfg : ∀ Γ Δ, Γ.AgreesOn N Δ → (f Γ).Agrees M (g Δ)) :
    (r.andThen f).Agrees M (q.andThen g) := by
  by_cases hr : r.verdict = true
  · rw [andThen_of_verdict hr, andThen_of_verdict (h.verdict ▸ hr)]
    exact hfg _ _ h.context
  · rw [andThen_of_not_verdict hr, andThen_of_not_verdict (h.verdict ▸ hr)]
    exact ⟨h.verdict, h.context.mono hM⟩

theorem context_andThen {P : Context → Prop} (hr : P r.context)
    (hf : P r.context → P (f r.context).context) : P (r.andThen f).context := by
  rw [Checked.andThen]
  split
  · exact hf hr
  · exact hr

end Checked

theorem Scoping.body_agrees {N : Set String} {f g : Context → Checked} {Γ Δ : Context}
    (sc : Scoping) (h : Γ.AgreesOn N Δ) (hfg : (f Γ).Agrees N (g Δ)) :
    (sc.body f Γ).Agrees N (sc.body g Δ) := by
  cases sc with
  | flat => exact hfg
  | nested => exact ⟨hfg.verdict, h⟩

theorem Scoping.context_body {P : Context → Prop} {f : Context → Checked} {Γ : Context}
    (sc : Scoping) (hΓ : P Γ) (hf : sc = .flat → P (f Γ).context) : P (sc.body f Γ).context := by
  cases sc with
  | flat => exact hf rfl
  | nested => exact hΓ

/-- The names that a statement may record when it is checked. -/
def Scoping.records : Scoping → Stmt → List String
  | .flat, s => s.declared
  | .nested, s => s.declaredOutside

namespace Stmt

variable {Γ : Context} {x : String}

theorem records_subset_names (sc : Scoping) (s : Stmt) : sc.records s ⊆ s.names := by
  cases sc with
  | flat => exact s.declared_subset_names
  | nested => exact List.Subset.trans s.declaredOutside_subset s.declared_subset_names

theorem records_seq (sc : Scoping) (s t : Stmt) :
    sc.records (seq s t) = sc.records s ++ sc.records t := by
  cases sc <;> rfl

theorem records_block (sc : Scoping) (s : Stmt) : sc.records (block s) = sc.records s := by
  cases sc <;> rfl

/-- What holds of a context, and still does when a name of the statement is recorded with a proper
type, holds of the context that the check leaves, also when it fails. -/
theorem check_invariant (sc : Scoping) {P : Context → Prop} {N : List String} {s : Stmt}
    (hs : sc.records s ⊆ N)
    (hdeclare : ∀ Δ y τ, P Δ → y ∈ N → τ ≠ .illTyped → P (Δ.declare y τ)) (hΓ : P Γ) :
    P (s.check sc Γ).context := by
  induction s generalizing Γ with
  | seq s t ihs iht =>
    rw [records_seq] at hs
    obtain ⟨hs, ht⟩ := List.append_subset.1 hs
    rw [check]
    apply Checked.context_andThen (ihs hs hΓ)
    exact iht ht
  | declare y e =>
    have hy : y ∈ N := by
      cases sc <;> exact hs List.mem_cons_self
    rw [check_declare]
    split
    · exact hΓ
    · rename_i he
      exact hdeclare Γ y _ hΓ hy he
  | assign y e => exact hΓ
  | whileDo c body ih =>
    rw [check]
    apply Checked.context_andThen hΓ
    intro hΓ
    apply sc.context_body hΓ
    rintro rfl
    exact ih hs hΓ
  | ifElse c s t ihs iht =>
    rw [check]
    apply Checked.context_andThen
    · apply Checked.context_andThen hΓ
      intro hΓ
      apply sc.context_body hΓ
      rintro rfl
      exact ihs (List.append_subset.1 hs).1 hΓ
    · intro hΓ
      apply sc.context_body hΓ
      rintro rfl
      exact iht (List.append_subset.1 hs).2 hΓ
  | print e => exact hΓ
  | block s ih => exact ih (records_block sc s ▸ hs) hΓ

theorem get?_check (sc : Scoping) {s : Stmt} (hx : x ∉ sc.records s) :
    (s.check sc Γ).context.get? x = Γ.get? x := by
  apply check_invariant sc (P := fun Δ => Δ.get? x = Γ.get? x) (List.Subset.refl _) _ rfl
  intro Δ y τ hΔ hy _
  have hyx : y ≠ x := fun he => hx (he ▸ hy)
  rw [Context.get?_declare, if_neg hyx, hΔ]

end Stmt

end WhileLang
