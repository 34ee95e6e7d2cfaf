import WhileLang.Proofs.Checking
import WhileLang.Stmt.Shape

namespace WhileLang

namespace Stmt

/-- Neither a sequence nor written braces. -/
def IsStep : Stmt → Prop
  | seq _ _ => False
  | block _ => False
  | _ => True

theorem isStep_of_mem_steps {s t : Stmt} (h : t ∈ s.steps) : t.IsStep := by
  induction s with
  | seq a b iha ihb =>
    rcases List.mem_append.1 h with ha | hb
    · exact iha ha
    · exact ihb hb
  | declare x e => exact List.mem_singleton.1 h ▸ trivial
  | assign x e => exact List.mem_singleton.1 h ▸ trivial
  | whileDo c body => exact List.mem_singleton.1 h ▸ trivial
  | ifElse c a b => exact List.mem_singleton.1 h ▸ trivial
  | print e => exact List.mem_singleton.1 h ▸ trivial
  | block a ih => exact ih h

end Stmt

/-- Record what the statement declares, if it is a declaration. -/
def Context.record (Γ : Context) : Stmt → Context
  | .declare x e => Γ.declare x (e.infer Γ)
  | _ => Γ

/-- The types that the declarations among the statements produce, one after the other. -/
def Context.recordAll (Γ : Context) (ss : List Stmt) : Context :=
  ss.foldl record Γ

theorem Checked.eq_of_context {r : Checked} {Γ : Context} (h : r.context = Γ) :
    r = ⟨true, Γ⟩ ∨ r = ⟨false, Γ⟩ := by
  obtain ⟨verdict, Δ⟩ := r
  obtain rfl : Δ = Γ := h
  cases verdict with
  | false => exact .inr rfl
  | true => exact .inl rfl

theorem Stmt.check_step {t : Stmt} (ht : t.IsStep) (Γ : Context) :
    t.check .nested Γ = ⟨true, Γ.record t⟩ ∨ t.check .nested Γ = ⟨false, Γ⟩ := by
  cases t with
  | seq a b => exact ht.elim
  | declare x e =>
    rw [check_declare]
    split
    · exact .inr rfl
    · exact .inl rfl
  | assign x e => exact Checked.eq_of_context rfl
  | whileDo c body => exact Checked.eq_of_context (context_whileDo c body Γ)
  | ifElse c a b => exact Checked.eq_of_context (context_ifElse c a b Γ)
  | print e => exact Checked.eq_of_context rfl
  | block a => exact ht.elim

namespace Stmt

variable {Γ : Context}

/-- Each of the statements is accepted in the context that those before it left. -/
def AcceptedInTurn : List Stmt → Context → Prop
  | [], _ => True
  | s :: ss, Γ =>
    (s.check .nested Γ).verdict = true ∧ AcceptedInTurn ss (s.check .nested Γ).context

/-- Check the statements one after the other, up to the first failure. -/
def checkAll : List Stmt → Context → Checked
  | [], Γ => ⟨true, Γ⟩
  | s :: ss, Γ => (s.check .nested Γ).andThen (checkAll ss)

theorem checkAll_append (ss ts : List Stmt) (Γ : Context) :
    checkAll (ss ++ ts) Γ = (checkAll ss Γ).andThen (checkAll ts) := by
  induction ss generalizing Γ with
  | nil => rfl
  | cons s ss ih =>
    rw [List.cons_append, checkAll, checkAll, Checked.andThen_assoc]
    exact congrArg _ (funext ih)

theorem checkAll_singleton (s : Stmt) (Γ : Context) : checkAll [s] Γ = s.check .nested Γ := by
  rw [checkAll, Checked.andThen]
  split
  · rename_i h
    exact congrArg (Checked.mk · _) h.symm
  · rfl

theorem checkAll_steps (s : Stmt) (Γ : Context) : checkAll s.steps Γ = s.check .nested Γ := by
  induction s generalizing Γ with
  | seq a b iha ihb =>
    rw [steps, checkAll_append, check, iha]
    exact congrArg _ (funext ihb)
  | declare x e => exact checkAll_singleton _ Γ
  | assign x e => exact checkAll_singleton _ Γ
  | whileDo c body => exact checkAll_singleton _ Γ
  | ifElse c a b => exact checkAll_singleton _ Γ
  | print e => exact checkAll_singleton _ Γ
  | block a ih => exact ih Γ

theorem verdict_checkAll {ss : List Stmt} {Γ : Context} :
    (checkAll ss Γ).verdict = true ↔ AcceptedInTurn ss Γ := by
  induction ss generalizing Γ with
  | nil => exact iff_of_true rfl trivial
  | cons s ss ih =>
    rw [checkAll, Checked.verdict_andThen, ih]
    rfl

/-- All steps are accepted in turn, or a first one is not. What is recorded comes from those before
it. -/
theorem checkAll_cases {ss : List Stmt} (hss : ∀ t ∈ ss, t.IsStep) (Γ : Context) :
    (AcceptedInTurn ss Γ ∧ checkAll ss Γ = ⟨true, Γ.recordAll ss⟩) ∨
      ∃ pre t post, ss = pre ++ t :: post ∧ AcceptedInTurn pre Γ ∧
        t.check .nested (Γ.recordAll pre) = ⟨false, Γ.recordAll pre⟩ ∧
        checkAll ss Γ = ⟨false, Γ.recordAll pre⟩ := by
  induction ss generalizing Γ with
  | nil => exact .inl ⟨trivial, rfl⟩
  | cons s ss ih =>
    obtain ⟨hs, hss⟩ := List.forall_mem_cons.1 hss
    rw [checkAll]
    rcases check_step hs Γ with hok | hfail
    · rw [hok, Checked.andThen_of_verdict rfl]
      rcases ih hss (Γ.record s) with ⟨hturn, hall⟩ | ⟨pre, t, post, rfl, hturn, ht, hall⟩
      · exact .inl ⟨⟨congrArg Checked.verdict hok, hok ▸ hturn⟩, hall⟩
      · exact .inr ⟨s :: pre, t, post, rfl, ⟨congrArg Checked.verdict hok, hok ▸ hturn⟩, ht, hall⟩
    · rw [hfail]
      exact .inr ⟨[], s, ss, rfl, trivial, hfail, rfl⟩

/-- A nested check is all or nothing at each step of a statement. It succeeds exactly when the steps
are accepted one after the other, and records the declarations among them. When it fails, it has
recorded the declarations before the first step that fails, and that step, however deep it failed,
has left no trace. A loop or a branch never leaves one. -/
theorem check_nested_by_steps (s : Stmt) (Γ : Context) :
    (∀ t ∈ s.steps, t.IsStep) ∧
      ((s.check .nested Γ).verdict = true ↔ AcceptedInTurn s.steps Γ) ∧
      ((s.check .nested Γ).verdict = true → (s.check .nested Γ).context = Γ.recordAll s.steps) ∧
      ((s.check .nested Γ).verdict = false → ∃ pre t post, s.steps = pre ++ t :: post ∧
        AcceptedInTurn pre Γ ∧
        t.check .nested (Γ.recordAll pre) = ⟨false, Γ.recordAll pre⟩ ∧
        (s.check .nested Γ).context = Γ.recordAll pre) ∧
      ∀ t ∈ s.steps, (∃ c body, t = whileDo c body) ∨ (∃ c a b, t = ifElse c a b) →
        ∀ Δ, (t.check .nested Δ).context = Δ := by
  have hsteps : ∀ t ∈ s.steps, t.IsStep := fun _ => isStep_of_mem_steps
  have hloop : ∀ t ∈ s.steps, (∃ c body, t = whileDo c body) ∨ (∃ c a b, t = ifElse c a b) →
      ∀ Δ, (t.check .nested Δ).context = Δ := by
    rintro t - (⟨c, body, rfl⟩ | ⟨c, a, b, rfl⟩) Δ
    · exact context_whileDo c body Δ
    · exact context_ifElse c a b Δ
  rw [← checkAll_steps]
  refine ⟨hsteps, verdict_checkAll, ?_, ?_, hloop⟩
  · intro hv
    rcases checkAll_cases hsteps Γ with ⟨-, hall⟩ | ⟨_, _, _, -, -, -, hall⟩
    · rw [hall]
    · rw [hall] at hv
      cases hv
  · intro hv
    rcases checkAll_cases hsteps Γ with ⟨-, hall⟩ | ⟨pre, t, post, hpre, hturn, ht, hall⟩
    · rw [hall] at hv
      cases hv
    · exact ⟨pre, t, post, hpre, hturn, ht, congrArg Checked.context hall⟩

theorem check_nested_by_steps_failedLoop :
    let loop := whileDo (.var "y") (seq (declare "z" (.num 1)) (print (.var "u")))
    let start := seq (declare "x" (.num 1)) (block (declare "y" (.bool true)))
    let s := seq start (seq loop (declare "w" (.num 2)))
    (start.check .nested .empty).verdict = true ∧
      (start.check .nested .empty).context = Context.empty.recordAll start.steps ∧
      (s.check .nested .empty).verdict = false ∧
      (∃ pre t post, s.steps = pre ++ t :: post ∧ AcceptedInTurn pre .empty ∧
        t.check .nested (Context.empty.recordAll pre) = ⟨false, Context.empty.recordAll pre⟩ ∧
        (s.check .nested .empty).context = Context.empty.recordAll pre) ∧
      loop ∈ s.steps ∧ ∀ Δ, (loop.check .nested Δ).context = Δ := by
  intro loop start s
  have hstart : (start.check .nested .empty).verdict = true := by decide +kernel
  have hs : (s.check .nested .empty).verdict = false := by decide +kernel
  have hloop : loop ∈ s.steps := by decide
  obtain ⟨-, -, haccepted, -⟩ := check_nested_by_steps start .empty
  obtain ⟨-, -, -, hfailed, hkeeps⟩ := check_nested_by_steps s .empty
  exact ⟨hstart, haccepted hstart, hs, hfailed hs, hloop, hkeeps loop hloop (.inl ⟨_, _, rfl⟩)⟩

end Stmt

end WhileLang
