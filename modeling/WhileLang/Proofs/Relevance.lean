import WhileLang.Proofs.Contexts
import WhileLang.Proofs.Frame
import WhileLang.Proofs.Twins

namespace WhileLang

theorem Expr.sameOn_of_names {N : Set String} {e : Expr} (he : ∀ x ∈ e.names, x ∈ N) :
    e.SameOn N e := by
  intro env₁ env₂ henv
  apply eval_congr
  intro x hx
  exact henv x (he x hx)

namespace Stmt

variable {N : Set String}

theorem check_agrees (sc : Scoping) {s : Stmt} (hs : ∀ x ∈ s.names, x ∈ N) {Γ Δ : Context}
    (h : Γ.AgreesOn N Δ) : (s.check sc Γ).Agrees N (s.check sc Δ) := by
  induction s generalizing Γ Δ with
  | seq s t ihs iht =>
    obtain ⟨hs, ht⟩ := List.forall_mem_append.1 hs
    rw [check, check]
    apply (ihs hs h).andThen Set.Subset.rfl
    intro Γ' Δ' h'
    exact iht ht h'
  | declare x e =>
    obtain ⟨-, he⟩ := List.forall_mem_cons.1 hs
    rw [check_declare, check_declare, h.infer he]
    split
    · exact ⟨rfl, h⟩
    · exact ⟨rfl, h.declare x _⟩
  | assign x e =>
    obtain ⟨hx, he⟩ := List.forall_mem_cons.1 hs
    rw [check, check, h x hx, h.infer he]
    exact ⟨rfl, h⟩
  | whileDo c body ih =>
    obtain ⟨hc, hb⟩ := List.forall_mem_append.1 hs
    rw [check, check, h.infer hc]
    apply (Checked.Agrees.of_context h _).andThen Set.Subset.rfl
    intro Γ' Δ' h'
    exact sc.body_agrees h' (ih hb h')
  | ifElse c s t ihs iht =>
    obtain ⟨hcs, ht⟩ := List.forall_mem_append.1 hs
    obtain ⟨hc, hs⟩ := List.forall_mem_append.1 hcs
    rw [check, check, h.infer hc]
    apply Checked.Agrees.andThen (N := N) _ Set.Subset.rfl
    · intro Γ' Δ' h'
      exact sc.body_agrees h' (iht ht h')
    · apply (Checked.Agrees.of_context h _).andThen Set.Subset.rfl
      intro Γ' Δ' h'
      exact sc.body_agrees h' (ihs hs h')
  | print e =>
    rw [check, check, h.infer hs]
    exact ⟨rfl, h⟩
  | block s ih => exact ih hs h

variable {σ τ : Type} [Sink σ] [Sink τ]

theorem matches_self (k : Nat) {s : Stmt} (hs : ∀ x ∈ s.names, x ∈ N) :
    Matches σ τ Eq N k s s := by
  induction s with
  | seq s t ihs iht =>
    obtain ⟨hs, ht⟩ := List.forall_mem_append.1 hs
    exact (ihs hs).seq (iht ht)
  | declare x e =>
    obtain ⟨-, he⟩ := List.forall_mem_cons.1 hs
    exact .declare x (Expr.sameOn_of_names he)
  | assign x e =>
    obtain ⟨hx, he⟩ := List.forall_mem_cons.1 hs
    exact .assign hx (Expr.sameOn_of_names he) fun _ => rfl
  | whileDo c body ih =>
    obtain ⟨hc, hb⟩ := List.forall_mem_append.1 hs
    exact .whileDo (Expr.sameOn_of_names hc) (fun _ => rfl) (ih hb)
  | ifElse c s t ihs iht =>
    obtain ⟨hcs, ht⟩ := List.forall_mem_append.1 hs
    obtain ⟨hc, hs⟩ := List.forall_mem_append.1 hcs
    exact .ifElse (Expr.sameOn_of_names hc) (fun _ => rfl) (ihs hs) (iht ht)
  | print e => exact .print (Expr.sameOn_of_names hs) fun _ => rfl
  | block s ih => exact ih hs

theorem Runs.get?_of_not_mem_names {s : Stmt} {m m' : Machine σ} {env env' : Store} {x : String}
    (h : s.Runs m env (m', env')) (hx : x ∉ s.names) : env'.get? x = env.get? x := by
  obtain ⟨k, hk⟩ := h
  apply (exec_frame hk).value x
  · intro hd
    exact hx (s.declared_subset_names hd)
  · intro ha
    exact hx (s.assigned_subset_names ha)

/-- Names that do not occur in a statement do not matter. Runs from stores that agree on its names,
also on different machines, end together, leave the same events and agree again, and checks from
contexts that agree on its names do the same; entries of other names stay as they were. -/
theorem depends_on_names (s : Stmt) :
    (∀ (m₁ : Machine σ) (m₂ : Machine τ) (env₁ env₂ : Store),
      (∀ x ∈ s.names, env₁.get? x = env₂.get? x) →
        ((∃ r, s.Runs m₁ env₁ r) ↔ ∃ q, s.Runs m₂ env₂ q) ∧
          ∀ m₁' env₁' m₂' env₂', s.Runs m₁ env₁ (m₁', env₁') → s.Runs m₂ env₂ (m₂', env₂') →
            (∃ es, m₁' = m₁.feed es ∧ m₂' = m₂.feed es) ∧
              (∀ x ∈ s.names, env₁'.get? x = env₂'.get? x) ∧
              ∀ x ∉ s.names, env₁'.get? x = env₁.get? x ∧ env₂'.get? x = env₂.get? x) ∧
    ∀ (sc : Scoping) (Γ₁ Γ₂ : Context), (∀ x ∈ s.names, Γ₁.get? x = Γ₂.get? x) →
      (s.check sc Γ₁).verdict = (s.check sc Γ₂).verdict ∧
        (∀ x ∈ s.names, (s.check sc Γ₁).context.get? x = (s.check sc Γ₂).context.get? x) ∧
        ∀ x ∉ s.names, (s.check sc Γ₁).context.get? x = Γ₁.get? x ∧
          (s.check sc Γ₂).context.get? x = Γ₂.get? x := by
  have hnames : ∀ x ∈ s.names, x ∈ {y | y ∈ s.names} := fun _ hx => hx
  constructor
  · intro m₁ m₂ env₁ env₂ henv
    have hruns := Matches.runs (fun k => matches_self k hnames) m₁ m₂ henv
    refine ⟨hruns.1, ?_⟩
    intro m₁' env₁' m₂' env₂' h₁ h₂
    obtain ⟨⟨es, fs, hes, hfs, hsame⟩, hstores⟩ := hruns.2 _ _ h₁ h₂
    have heq : es = fs := List.forall₂_eq_eq_eq ▸ hsame
    refine ⟨⟨es, hes, heq ▸ hfs⟩, hstores, ?_⟩
    intro x hx
    exact ⟨h₁.get?_of_not_mem_names hx, h₂.get?_of_not_mem_names hx⟩
  · intro sc Γ₁ Γ₂ hΓ
    obtain ⟨hverdict, hcontext⟩ := check_agrees sc hnames hΓ
    refine ⟨hverdict, hcontext, ?_⟩
    intro x hx
    have hrec : x ∉ sc.records s := fun h => hx (s.records_subset_names sc h)
    exact ⟨get?_check sc hrec, get?_check sc hrec⟩

theorem depends_on_names_whileScoping :
    let s := Gallery.whileScoping.body
    let m₁ := Machine.start Log.empty
    let m₂ := Machine.start Transcript.empty
    let env := Store.empty.declare "k" (.bool true)
    let Γ := Context.empty.declare "k" .int
    (∃ m₁' env₁ m₂' env₂, s.Runs m₁ env (m₁', env₁) ∧ s.Runs m₂ .empty (m₂', env₂) ∧
      (∃ es, m₁' = m₁.feed es ∧ m₂' = m₂.feed es) ∧
      (∀ x ∈ s.names, env₁.get? x = env₂.get? x) ∧
      env₁.get? "k" = some (.bool true) ∧ env₂.get? "k" = none) ∧
    (s.check .flat Γ).verdict = (s.check .flat .empty).verdict := by
  intro s m₁ m₂ env Γ
  have henv : ∀ x ∈ s.names, env.get? x = Store.empty.get? x := by decide
  have hΓ : ∀ x ∈ s.names, Γ.get? x = Context.empty.get? x := by decide
  have hk : "k" ∉ s.names := by decide
  have hends₁ : (s.exec 6 m₁ env).isSome := by decide +kernel
  have hends₂ : (s.exec 6 m₂ .empty).isSome := by decide +kernel
  obtain ⟨⟨m₁', env₁⟩, h₁⟩ := Option.isSome_iff_exists.1 hends₁
  obtain ⟨⟨m₂', env₂⟩, h₂⟩ := Option.isSome_iff_exists.1 hends₂
  obtain ⟨hexec, hcheck⟩ := depends_on_names (σ := Log) (τ := Transcript) s
  obtain ⟨-, hruns⟩ := hexec m₁ m₂ env .empty henv
  obtain ⟨hes, hnames, hothers⟩ := hruns _ _ _ _ ⟨6, h₁⟩ ⟨6, h₂⟩
  obtain ⟨hk₁, hk₂⟩ := hothers "k" hk
  exact ⟨⟨m₁', env₁, m₂', env₂, ⟨6, h₁⟩, ⟨6, h₂⟩, hes, hnames, hk₁.trans rfl, hk₂.trans rfl⟩,
    (hcheck .flat Γ .empty hΓ).1⟩

end Stmt

end WhileLang
