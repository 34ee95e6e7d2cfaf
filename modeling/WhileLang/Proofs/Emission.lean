import WhileLang.Proofs.Courses
import WhileLang.Proofs.Diagnosis

namespace WhileLang

variable {σ : Type} [Sink σ]

theorem Machine.Emits.weaken {P Q : Event → Prop} {m m' : Machine σ} (h : m.Emits P m')
    (hPQ : ∀ e, P e → Q e) : m.Emits Q m' := by
  obtain ⟨es, hm, hes⟩ := h
  exact ⟨es, hm, fun e he => hPQ e (hes e he)⟩

namespace Stmt

/-- The stores on which a loop that was entered with `outer` comes to check its condition. -/
inductive Checks (c : Expr) (body : Stmt) (outer : Store) : Store → Prop
  | entry : Checks c body outer outer
  | round {inner left es} (h : Checks c body outer inner) (hc : c.eval inner = .bool true)
    (hb : body.Leaves inner es left) : Checks c body outer (outer.merge left)

/-- The run of a statement, which need not end, comes to leave an event. -/
inductive Emits : Stmt → Store → Event → Prop
  | print {x env} : Emits (.print x) env (.line (x.eval env).text)
  | assign {x y env fault} (h : env.assign x (y.eval env) = .error fault) :
    Emits (.assign x y) env (.diagnostic ⟨fault, (Stmt.assign x y).text⟩)
  | seqLeft {s t env e} (h : Emits s env e) : Emits (.seq s t) env e
  | seqRight {s t env env₁ es e} (hs : s.Leaves env es env₁) (h : Emits t env₁ e) :
    Emits (.seq s t) env e
  | yes {c s t env e} (hc : c.eval env = .bool true) (h : Emits s env e) :
    Emits (.ifElse c s t) env e
  | no {c s t env e} (hc : c.eval env = .bool false) (h : Emits t env e) :
    Emits (.ifElse c s t) env e
  | neither {c s t env} (hc : (c.eval env).kind ≠ .bool) :
    Emits (.ifElse c s t) env (.diagnostic (.condition "if" c (c.eval env).kind))
  | body {c s env inner e} (hi : s.Checks c env inner) (hc : c.eval inner = .bool true)
    (h : Emits s inner e) : Emits (.whileDo c s) env e
  | stop {c s env inner} (hi : s.Checks c env inner) (hc : (c.eval inner).kind ≠ .bool) :
    Emits (.whileDo c s) env (.diagnostic (.condition "while" c (c.eval inner).kind))
  | block {s env e} (h : Emits s env e) : Emits (.block s) env e

variable {k : Nat} {m m' : Machine σ} {env env' : Store} {es : List Event}

theorem leaves_of_exec {s : Stmt} (h : s.exec k m env = some (m', env')) :
    ∃ es, s.Leaves env es env' := by
  obtain ⟨es, env₁, hs, he⟩ := runs_iff_leaves.1 ⟨k, h⟩
  cases he
  exact ⟨es, hs⟩

theorem exec_emits {s : Stmt} (h : s.exec k m env = some (m', env')) :
    m.Emits (s.Emits env) m' := by
  induction s generalizing m env m' env' with
  | seq s t ihs iht =>
    obtain ⟨m₁, env₁, hs, ht⟩ := exec_seq_cases h
    obtain ⟨es, hleaves⟩ := leaves_of_exec hs
    have hleft := (ihs hs).weaken fun e he => Emits.seqLeft (t := t) he
    have hright := (iht ht).weaken fun e he => Emits.seqRight hleaves he
    exact hleft.trans hright
  | declare x e =>
    cases h
    exact .refl _ _
  | assign x e =>
    rcases exec_assign_cases h with ⟨-, rfl⟩ | ⟨fault, herr, -, rfl⟩
    · exact .refl _ _
    · exact Machine.Emits.record m (Emits.assign herr)
  | whileDo c body ih =>
    have hloop : ∃ inner,
        (m.Emits ((whileDo c body).Emits env) m' ∧ body.Checks c env inner) ∧
          env' = env.merge inner := by
      apply exec_whileDo_invariant
        (P := fun m₁ i => m.Emits ((whileDo c body).Emits env) m₁ ∧ body.Checks c env i) h
      · exact ⟨.refl _ _, .entry⟩
      · intro m₁ m₂ i₁ i₂ ⟨hem, hi⟩ hc hb
        obtain ⟨es, hleaves⟩ := leaves_of_exec hb
        have hround := (ih hb).weaken fun e he => Emits.body hi hc he
        exact ⟨hem.trans hround, hi.round hc hleaves⟩
      · intro m₁ i ⟨hem, hi⟩ hk
        have hstop := Machine.Emits.record m₁ (Emits.stop hi hk)
        exact ⟨hem.trans hstop, hi⟩
    obtain ⟨inner, ⟨hem, -⟩, -⟩ := hloop
    exact hem
  | ifElse c s t ihs iht =>
    obtain ⟨inner, -, hcases⟩ := exec_ifElse_cases h
    rcases hcases with ⟨hc, hs⟩ | ⟨hc, ht⟩ | ⟨hk, -, rfl⟩
    · exact (ihs hs).weaken fun e he => .yes hc he
    · exact (iht ht).weaken fun e he => .no hc he
    · exact Machine.Emits.record m (Emits.neither hk)
  | print e =>
    cases h
    exact Machine.Emits.record m Emits.print
  | block s ih => exact (ih h).weaken fun e he => .block he

theorem Leaves.emits {s : Stmt} (h : s.Leaves env es env') : ∀ e ∈ es, s.Emits env e := by
  obtain ⟨k, hk⟩ := h.runs (.start Log.empty)
  obtain ⟨fs, hfeed, hfs⟩ := exec_emits hk
  exact Machine.feed_inj hfeed ▸ hfs

end Stmt

theorem Event.FoundIn.mono {nodes nodes' : List Stmt} {e : Event} (h : e.FoundIn nodes)
    (hsub : nodes ⊆ nodes') : e.FoundIn nodes' := by
  intro d hd
  cases h d hd with
  | undeclared h => exact .undeclared (hsub h)
  | kindMismatch h hk => exact .kindMismatch (hsub h) hk
  | ifElse h hk => exact .ifElse (hsub h) hk
  | whileDo h hk => exact .whileDo (hsub h) hk

/-- Also a run that does not end reports only what is wrong with a statement of the program. -/
theorem Stmt.Emits.foundIn {s : Stmt} {env : Store} {e : Event} (h : s.Emits env e) :
    e.FoundIn s.nodes := by
  induction h with
  | print => exact nofun
  | assign h =>
    rintro _ ⟨⟩
    exact Store.assign_foundIn List.mem_cons_self h
  | seqLeft _ ih =>
    apply ih.mono
    exact List.subset_cons_of_subset _ (List.subset_append_left _ _)
  | seqRight _ _ ih =>
    apply ih.mono
    exact List.subset_cons_of_subset _ (List.subset_append_right _ _)
  | yes _ _ ih =>
    apply ih.mono
    exact List.subset_cons_of_subset _ (List.subset_append_left _ _)
  | no _ _ ih =>
    apply ih.mono
    exact List.subset_cons_of_subset _ (List.subset_append_right _ _)
  | neither hk =>
    rintro _ ⟨⟩
    exact .ifElse List.mem_cons_self hk
  | body _ _ _ ih =>
    apply ih.mono
    exact List.subset_cons_self _ _
  | stop _ hk =>
    rintro _ ⟨⟩
    exact .whileDo List.mem_cons_self hk
  | block _ ih =>
    apply ih.mono
    exact List.subset_cons_self _ _

end WhileLang
