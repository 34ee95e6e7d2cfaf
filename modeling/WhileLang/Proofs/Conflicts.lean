import WhileLang.Proofs.Recording

namespace WhileLang

namespace Context

/-- Every entry of the first context is one of the second. -/
instance : HasSubset Context := ⟨fun Γ Δ => ∀ x τ, Γ.get? x = some τ → Δ.get? x = some τ⟩

/-- Every recorded type is the one that `ρ` gives to the name. -/
def Follows (ρ : String → Ty) (Γ : Context) : Prop :=
  ∀ x τ, Γ.get? x = some τ → τ = ρ x

variable {ρ : String → Ty} {Γ Δ : Context} {x : String} {τ : Ty}

theorem follows_empty (ρ : String → Ty) : empty.Follows ρ := by
  intro x τ hx
  rw [get?_empty] at hx
  cases hx

theorem Follows.declare (h : Γ.Follows ρ) (hτ : τ = ρ x) : (Γ.declare x τ).Follows ρ := by
  intro y υ hy
  rw [get?_declare] at hy
  split at hy
  · rename_i he
    rw [← Option.some.inj hy, hτ, he]
  · exact h y υ hy

theorem Follows.subset (hΓ : Γ.Follows ρ) (hΔ : Δ.Follows ρ)
    (hnames : ∀ x, Γ.contains x → Δ.contains x) : Γ ⊆ Δ := by
  intro x τ hx
  obtain ⟨υ, hυ⟩ := contains_iff_exists.1 (hnames x (contains_iff_exists.2 ⟨τ, hx⟩))
  rw [hυ, hΓ x τ hx, hΔ x υ hυ]

theorem subset_declare (h : Γ ⊆ Δ) (x : String) (τ : Ty) : Γ.declare x τ ⊆ Δ.declare x τ := by
  intro y υ hy
  rw [get?_declare] at hy ⊢
  split
  · rename_i he
    rw [if_pos he] at hy
    exact hy
  · rename_i he
    rw [if_neg he] at hy
    exact h y υ hy

end Context

namespace Expr

variable {Γ Δ : Context} {e : Expr}

/-- More entries do not change a proper type. They could change that of an equation of two sides
without one. -/
theorem infer_of_subset (h : Γ ⊆ Δ) (heq : e.EqTyped Γ) (he : e.infer Γ ≠ .illTyped) :
    e.infer Δ = e.infer Γ := by
  induction e with
  | num n => rfl
  | bool b => rfl
  | var x =>
    rw [infer] at he ⊢
    rw [infer]
    cases hx : Γ.get? x with
    | none =>
      rw [hx] at he
      exact absurd rfl he
    | some τ => rw [h x τ hx]
  | not e ih =>
    have hne : e.infer Γ ≠ .illTyped := fun hi => he (congrArg Ty.not hi)
    exact congrArg Ty.not (ih heq hne)
  | group e ih => exact ih heq he
  | binary op l r ihl ihr =>
    obtain ⟨hl, hr⟩ := BinOp.infer_operands he heq.2.2
    rw [infer, infer, ihl heq.1 hl, ihr heq.2.1 hr]

theorem infer_bool_of_subset (h : Γ ⊆ Δ) (heq : e.EqTyped Γ) (hb : e.infer Γ = .bool) :
    e.infer Δ = .bool := by
  have he : e.infer Γ ≠ .illTyped := by
    rw [hb]
    decide
  exact (infer_of_subset h heq he).trans hb

end Expr

/-- A declaration or an assignment to a name, with the type of its value. -/
inductive Write where
  | declaration (x : String) (τ : Ty)
  | assignment (x : String) (τ : Ty)
  deriving DecidableEq

/-- A declaration has the type that `ρ` gives to the name, and an assignment a proper one. -/
def Write.Follows (ρ : String → Ty) : Write → Prop
  | declaration x τ => τ = ρ x
  | assignment _ τ => τ ≠ .illTyped

instance (ρ : String → Ty) : (w : Write) → Decidable (w.Follows ρ)
  | .declaration x τ => inferInstanceAs (Decidable (τ = ρ x))
  | .assignment _ τ => inferInstanceAs (Decidable (τ ≠ .illTyped))

/-- The second context has all entries of the first one, and perhaps more, that follow `ρ` as
well. -/
structure Context.Widens (ρ : String → Ty) (Γ Δ : Context) : Prop where
  subset : Γ ⊆ Δ
  follows : Δ.Follows ρ

namespace Stmt

/-- The declarations and assignments that a check meets, each with the type that is inferred for its
value there. -/
def writes (sc : Scoping) : Stmt → Context → List Write
  | seq s t, Γ =>
    s.writes sc Γ ++
      if (s.check sc Γ).verdict then t.writes sc (s.check sc Γ).context else []
  | declare x e, Γ => [.declaration x (e.infer Γ)]
  | assign x e, Γ => [.assignment x (e.infer Γ)]
  | whileDo c body, Γ => if c.infer Γ = .bool then body.writes sc Γ else []
  | ifElse c s t, Γ =>
    if c.infer Γ = .bool then
      s.writes sc Γ ++
        if (s.check sc Γ).verdict then t.writes sc (sc.body (s.check sc) Γ).context else []
    else []
  | print _, _ => []
  | block s, Γ => s.writes sc Γ

variable {ρ : String → Ty} {Γ Δ : Context} {c : Expr} {s t : Stmt}

theorem check_flat_whileDo (hc : c.infer Γ = .bool) :
    (whileDo c s).check .flat Γ = s.check .flat Γ :=
  Checked.andThen_of_verdict (decide_eq_true hc)

theorem check_flat_ifElse (hc : c.infer Γ = .bool) :
    (ifElse c s t).check .flat Γ = (s.check .flat Γ).andThen (t.check .flat) :=
  congrArg (Checked.andThen · (t.check .flat)) (check_flat_whileDo hc)

theorem widens_check_flat (h : Γ.Widens ρ Δ) (hs : (s.check .flat Δ).context.Follows ρ) :
    Γ.Widens ρ (s.check .flat Δ).context where
  subset x τ hx :=
    h.follows.subset hs (fun _ => contains_check .flat s) x τ (h.subset x τ hx)
  follows := hs

theorem check_flat_widens (h : Γ.Widens ρ Δ) (hv : (s.check .nested Γ).verdict = true)
    (heq : s.EqTyped .nested Γ) (hw : ∀ w ∈ s.writes .nested Γ, w.Follows ρ) :
    (s.check .flat Δ).verdict = true ∧
      (s.check .nested Γ).context.Widens ρ (s.check .flat Δ).context := by
  induction s generalizing Γ Δ with
  | seq s t ihs iht =>
    obtain ⟨hvs, hvt⟩ := Checked.verdict_andThen.1 hv
    rw [writes, if_pos hvs] at hw
    obtain ⟨hws, hwt⟩ := List.forall_mem_append.1 hw
    obtain ⟨hfs, hs⟩ := ihs h hvs heq.1 hws
    rw [check, check, Checked.andThen_of_verdict hvs, Checked.andThen_of_verdict hfs]
    exact iht hs hvt (heq.2 hvs) hwt
  | declare x e =>
    have hτ : e.infer Γ = ρ x := hw _ List.mem_cons_self
    rw [check_declare] at hv
    split at hv
    · cases hv
    · rename_i he
      have hsame := Expr.infer_of_subset h.subset heq he
      rw [check_declare, check_declare, hsame, if_neg he, if_neg he]
      exact ⟨rfl, Context.subset_declare h.subset x _, h.follows.declare hτ⟩
  | assign x e =>
    have he : e.infer Γ ≠ .illTyped := hw _ List.mem_cons_self
    have hx : Γ.get? x = some (e.infer Γ) := of_decide_eq_true hv
    have hc := Context.contains_iff_exists.2 ⟨_, hx⟩
    have hsame := Expr.infer_of_subset h.subset (heq hc) he
    rw [check, check, hsame]
    exact ⟨decide_eq_true (h.subset x _ hx), h⟩
  | whileDo c body ih =>
    obtain ⟨hc, hvb⟩ := verdict_whileDo.1 hv
    rw [writes, if_pos hc] at hw
    have hcΔ := Expr.infer_bool_of_subset h.subset heq.1 hc
    obtain ⟨hfb, hb⟩ := ih h hvb (heq.2 hc) hw
    rw [context_whileDo, check_flat_whileDo hcΔ]
    exact ⟨hfb, widens_check_flat h hb.follows⟩
  | ifElse c s t ihs iht =>
    obtain ⟨hc, hvs, hvt⟩ := verdict_ifElse.1 hv
    obtain ⟨heqs, heqt⟩ := heq.2 hc
    rw [writes, if_pos hc, if_pos hvs] at hw
    obtain ⟨hws, hwt⟩ := List.forall_mem_append.1 hw
    have hcΔ := Expr.infer_bool_of_subset h.subset heq.1 hc
    obtain ⟨hfs, hs⟩ := ihs h hvs heqs hws
    have hbetween := widens_check_flat h hs.follows
    obtain ⟨hft, ht⟩ := iht hbetween hvt (heqt hvs) hwt
    rw [context_ifElse, check_flat_ifElse hcΔ, Checked.andThen_of_verdict hfs]
    exact ⟨hft, widens_check_flat hbetween ht.follows⟩
  | print e =>
    have he : e.infer Γ ≠ .illTyped := of_decide_eq_true hv
    rw [check, check, Expr.infer_of_subset h.subset heq he]
    exact ⟨decide_eq_true he, h⟩
  | block s ih => exact ih h hv heq hw

/-- An assignment that is accepted although its value is ill-typed goes to a name that was recorded
so from the start, since no check records it. -/
theorem get?_of_assignment {x : String} (hv : (s.check .nested Γ).verdict = true)
    (hw : .assignment x .illTyped ∈ s.writes .nested Γ) : Γ.get? x = some .illTyped := by
  induction s generalizing Γ with
  | seq s t ihs iht =>
    obtain ⟨hvs, hvt⟩ := Checked.verdict_andThen.1 hv
    rw [writes, if_pos hvs] at hw
    rcases List.mem_append.1 hw with hw | hw
    · exact ihs hvs hw
    · have hx := iht hvt hw
      rcases get?_check_cases .nested s Γ x with hsame | ⟨-, τ, hτ, hget⟩
      · exact hsame.symm.trans hx
      · exact absurd (Option.some.inj (hget.symm.trans hx)) hτ
  | declare y e => cases List.mem_singleton.1 hw
  | assign y e =>
    obtain ⟨rfl, he⟩ := Write.assignment.inj (List.mem_singleton.1 hw)
    exact (of_decide_eq_true hv).trans (congrArg some he.symm)
  | whileDo c body ih =>
    obtain ⟨hc, hvb⟩ := verdict_whileDo.1 hv
    rw [writes, if_pos hc] at hw
    exact ih hvb hw
  | ifElse c s t ihs iht =>
    obtain ⟨hc, hvs, hvt⟩ := verdict_ifElse.1 hv
    rw [writes, if_pos hc, if_pos hvs] at hw
    rcases List.mem_append.1 hw with hw | hw
    · exact ihs hvs hw
    · exact iht hvt hw
  | print e => cases hw
  | block s ih => exact ih hv hw

/-- What the nested mode accepts is accepted in the flat mode as well, which then records the same
types and perhaps more. This asks that no name has two types, that no equation of two ill-typed
sides is met, and no assignment of an ill-typed value to a name that is recorded as ill-typed. -/
theorem check_flat_of_nested (hv : (s.check .nested Γ).verdict = true) (heq : s.EqTyped .nested Γ)
    (hΓ : ∀ x τ, Γ.get? x = some τ → τ = ρ x)
    (hd : ∀ x τ, .declaration x τ ∈ s.writes .nested Γ → τ = ρ x)
    (ha : ∀ x, Γ.get? x = some .illTyped → .assignment x .illTyped ∉ s.writes .nested Γ) :
    (s.check .flat Γ).verdict = true ∧
      ∀ x τ, (s.check .nested Γ).context.get? x = some τ →
        (s.check .flat Γ).context.get? x = some τ := by
  have hw : ∀ w ∈ s.writes .nested Γ, w.Follows ρ := by
    intro w hw
    cases w with
    | declaration x τ => exact hd x τ hw
    | assignment x τ =>
      rintro rfl
      exact ha x (get?_of_assignment hv hw) hw
  obtain ⟨hflat, hwidens⟩ := check_flat_widens ⟨fun _ _ hx => hx, hΓ⟩ hv heq hw
  exact ⟨hflat, hwidens.subset⟩

theorem check_flat_of_nested_leakedName :
    let Γ := Context.empty.declare "b" .bool
    let s := chain (declare "x" (.num 1)) [
      ifElse (.var "b")
        (chain (declare "t" (.binary .add (.var "x") (.num 1))) [assign "x" (.var "t")])
        (print (.var "x")),
      whileDo (.binary .lt (.var "x") (.num 9))
        (chain (declare "t" (.num 2)) [assign "x" (.binary .mul (.var "x") (.var "t"))])]
    (s.check .nested Γ).verdict = true ∧ s.EqTyped .nested Γ ∧
      (∀ w ∈ s.writes .nested Γ, w.Follows fun x => if x = "b" then .bool else .int) ∧
      (s.check .flat Γ).verdict = true ∧
      (s.check .nested Γ).context.get? "x" = some .int ∧
      (s.check .flat Γ).context.get? "x" = some .int ∧
      (s.check .nested Γ).context.get? "t" = none ∧
      (s.check .flat Γ).context.get? "t" = some .int := by
  intro Γ s
  have hv : (s.check .nested Γ).verdict = true := by decide +kernel
  have heq : s.EqTyped .nested Γ := by decide +kernel
  have hw : ∀ w ∈ s.writes .nested Γ, w.Follows fun x => if x = "b" then .bool else .int := by
    decide +kernel
  have hΓ : Γ.Follows fun x => if x = "b" then .bool else .int :=
    (Context.follows_empty _).declare rfl
  have hx : (s.check .nested Γ).context.get? "x" = some .int := by decide +kernel
  obtain ⟨hflat, hsubset⟩ := check_flat_of_nested hv heq hΓ (fun x τ hx => hw _ hx)
    fun x _ hx => absurd rfl (hw _ hx)
  exact ⟨hv, heq, hw, hflat, hx, hsubset "x" .int hx, by decide +kernel⟩

/-- One type for each name is not enough. The nested mode accepts that a name that is recorded as
ill-typed is assigned another one that is not recorded, and which the flat mode knows by then to be
an integer. -/
theorem check_flat_rejects_leakedName :
    ¬ ∀ (s : Stmt) (Γ : Context) (ρ : String → Ty), (s.check .nested Γ).verdict = true →
      s.EqTyped .nested Γ → (∀ x τ, Γ.get? x = some τ → τ = ρ x) →
      (∀ x τ, .declaration x τ ∈ s.writes .nested Γ → τ = ρ x) →
      (s.check .flat Γ).verdict = true ∧
        ∀ x τ, (s.check .nested Γ).context.get? x = some τ →
          (s.check .flat Γ).context.get? x = some τ := by
  intro h
  let ρ : String → Ty := fun x => if x = "x" then .illTyped else .int
  let Γ := Context.empty.declare "x" .illTyped
  let s := seq (ifElse (.bool true) (declare "y" (.num 1)) (print (.num 0)))
    (assign "x" (.var "y"))
  have hwrites : s.writes .nested Γ = [.declaration "y" .int, .assignment "x" .illTyped] := by
    decide +kernel
  have hd : ∀ x τ, .declaration x τ ∈ s.writes .nested Γ → τ = ρ x := by
    rw [hwrites]
    intro x τ hx
    obtain ⟨rfl, rfl⟩ : x = "y" ∧ τ = .int := by simpa using hx
    rfl
  have hΓ : Γ.Follows ρ := (Context.follows_empty ρ).declare rfl
  have hflat : (s.check .flat Γ).verdict = false := by decide +kernel
  have hv := (h s Γ ρ (by decide +kernel) (by decide +kernel) hΓ hd).1
  exact Bool.false_ne_true (hflat.symm.trans hv)

end Stmt

end WhileLang
