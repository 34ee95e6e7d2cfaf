import WhileLang.Proofs.Unrolling

namespace WhileLang

namespace Store

variable {s t outer inner : Store} {x : String}

/-- The variable `x` of `s` has another value of the same kind in `t`. -/
def Moved (s t : Store) (x : String) : Prop :=
  ∃ v w, s.get? x = some v ∧ t.get? x = some w ∧ w ≠ v ∧ w.kind = v.kind

theorem moved_of_kind? (hk : t.kind? x = s.kind? x) (h : t.get? x ≠ s.get? x) : s.Moved t x := by
  cases hs : s.get? x with
  | none =>
    have ht : t.get? x = none := kind?_eq_none_iff.1 (hk.trans (kind?_eq_none_iff.2 hs))
    exact absurd (ht.trans hs.symm) h
  | some v =>
    obtain ⟨w, hw, hwk⟩ := Option.map_eq_some_iff.1 (hk.trans (kind?_of_get? hs))
    have hne : w ≠ v := by
      rintro rfl
      exact h (hw.trans hs.symm)
    exact ⟨v, w, hs, hw, hne, hwk⟩

theorem get?_merge_of_not_moved (h : ¬ outer.Moved inner x) :
    (outer.merge inner).get? x = outer.get? x := by
  by_cases hk : inner.kind? x = outer.kind? x
  · rw [get?_merge_of_kind? hk]
    by_contra hne
    exact h (moved_of_kind? hk hne)
  · exact get?_merge_of_kind?_ne hk

end Store

theorem Expr.exists_of_eval_ne {s t : Store} {e : Expr} (h : e.eval s ≠ e.eval t) :
    ∃ x ∈ e.names, s.get? x ≠ t.get? x := by
  by_contra hall
  push Not at hall
  exact h (eval_congr hall)

/-- The targets of the declarations and the assignments, those in bodies among them. -/
def Stmt.targets (s : Stmt) : List String :=
  s.declared ++ s.assigned

theorem Stmt.get?_of_not_mem_targets {s : Stmt} {env env' : Store} {es : List Event} {x : String}
    (h : s.Leaves env es env') (hx : x ∉ s.targets) : env'.get? x = env.get? x := by
  rw [targets, List.mem_append, not_or] at hx
  exact (frame_of_leaves h).value x hx.1 hx.2

namespace Course

variable {c : Expr} {body : Stmt} {env : Store} {x : String}

/-- At every check of the condition a name reads as before the loop, or it is a variable of the
outer store that the body has given another value of the same kind. -/
theorem get?_entry_cases (C : Course c body env env) {i : Nat} (hi : i ≤ C.rounds) (x : String) :
    (C.entry i).get? x = env.get? x ∨ x ∈ body.targets ∧ env.Moved (C.entry i) x := by
  by_cases hx : x ∈ body.targets
  · by_cases hget : (C.entry i).get? x = env.get? x
    · exact .inl hget
    · exact .inr ⟨hx, Store.moved_of_kind? (C.kind?_entry (fun _ => rfl) hi x) hget⟩
  · left
    apply C.entry_invariant (P := fun _ s => s.get? x = env.get? x) rfl _ hi
    intro j hj hentry
    have hexit := (Stmt.get?_of_not_mem_targets (C.leaves j hj) hx).trans hentry
    rw [Store.get?_merge_of_kind? (congrArg (Option.map Value.kind) hexit), hexit]

theorem exists_moved (C : Course c body env env) (h : 0 < C.rounds) :
    ∃ x ∈ c.names, x ∈ body.targets ∧ env.Moved (C.entry C.rounds) x := by
  have hne : c.eval (C.entry C.rounds) ≠ c.eval env :=
    fun he => C.stops (he.trans (C.rounds_pos_iff.1 h))
  obtain ⟨x, hx, hget⟩ := Expr.exists_of_eval_ne hne
  exact ⟨x, hx, (C.get?_entry_cases (Nat.le_refl _) x).resolve_left hget⟩

theorem get?_entry_of_not_moved (C : Course c body env env)
    (h : ∀ start es inner, (∀ x ∈ c.names, start.get? x = env.get? x) →
      body.Leaves start es inner → ∀ x ∈ c.names, ¬ env.Moved inner x)
    {i : Nat} (hi : i ≤ C.rounds) : ∀ x ∈ c.names, (C.entry i).get? x = env.get? x := by
  apply C.entry_invariant (P := fun _ s => ∀ x ∈ c.names, s.get? x = env.get? x)
    (fun _ _ => rfl) _ hi
  intro j hj hentry x hx
  exact Store.get?_merge_of_not_moved (h _ _ _ hentry (C.leaves j hj) x hx)

end Course

namespace Stmt

variable {σ : Type} [Sink σ]

/-- A loop ends only through the outer variables that its condition reads. What the condition sees
differs from the store before the loop only in variables that the body assigns or declares, and only
by values of the kinds that they had; when a loop ends that went a round, the condition reads such a
variable. So a loop never ends when its body moves none of them: when it only writes names of its
own, say, or declares them anew with other kinds. -/
theorem whileDo_ends_through_condition (c : Expr) (body : Stmt) (env : Store) (m : Machine σ) :
    (∀ r, (whileDo c body).Runs m env r → ∃ C : Course c body env env,
      r = (m.feed C.log, C.entry C.rounds) ∧ (0 < C.rounds ↔ c.eval env = .bool true)) ∧
    (∀ C : Course c body env env,
      (∀ i ≤ C.rounds, ∀ x,
        (C.entry i).get? x = env.get? x ∨ x ∈ body.targets ∧ env.Moved (C.entry i) x) ∧
      (0 < C.rounds → ∃ x ∈ c.names, x ∈ body.targets ∧ env.Moved (C.entry C.rounds) x)) ∧
    (c.eval env = .bool true →
      (∀ start es inner, (∀ x ∈ c.names, start.get? x = env.get? x) →
        body.Leaves start es inner → ∀ x ∈ c.names, ¬ env.Moved inner x) →
      ∀ r, ¬ (whileDo c body).Runs m env r) := by
  refine ⟨?_, ?_, ?_⟩
  · intro r h
    obtain ⟨C, hr⟩ := runs_whileDo_iff.1 h
    exact ⟨C, hr, C.rounds_pos_iff⟩
  · intro C
    exact ⟨fun i hi x => C.get?_entry_cases hi x, C.exists_moved⟩
  · intro hc hbody r h
    obtain ⟨C, -⟩ := runs_whileDo_iff.1 h
    have hsame := C.get?_entry_of_not_moved hbody (Nat.le_refl _)
    exact C.stops ((Expr.eval_congr hsame).trans hc)

theorem whileDo_ends_through_condition_hiding :
    let c := Expr.binary .lt (.var "i") (.var "j")
    let hide := chain (.declare "k" (.num 1)) [.declare "j" (.bool true)]
    let m := Machine.start Log.empty
    let env := (Store.empty.declare "i" (.int 0)).declare "j" (.int 3)
    (∃ r, (whileDo c countAndHide).Runs m env r ∧
      ∃ C : Course c countAndHide env env, r = (m.feed C.log, C.entry C.rounds) ∧
        0 < C.rounds ∧
        ∃ x ∈ c.names, x ∈ countAndHide.targets ∧ env.Moved (C.entry C.rounds) x) ∧
      ∀ r, ¬ (whileDo c hide).Runs m env r := by
  intro c hide m env
  have hc : c.eval env = .bool true := by decide +kernel
  constructor
  · have hends : ((whileDo c countAndHide).exec 4 m env).isSome := by decide +kernel
    obtain ⟨r, h⟩ := Option.isSome_iff_exists.1 hends
    obtain ⟨hruns, hmoved, -⟩ := whileDo_ends_through_condition c countAndHide env m
    obtain ⟨C, hr, hrounds⟩ := hruns r ⟨4, h⟩
    exact ⟨r, ⟨4, h⟩, C, hr, hrounds.2 hc, (hmoved C).2 (hrounds.2 hc)⟩
  · apply (whileDo_ends_through_condition c hide env m).2.2 hc
    intro start es inner hstart hleaves x hx hmoved
    have hhide : hide.Leaves start [] ((start.declare "k" (.int 1)).declare "j" (.bool true)) :=
      ⟨0, rfl⟩
    obtain ⟨-, rfl⟩ := hhide.unique hleaves
    obtain ⟨v, w, hv, hw, hne, hk⟩ := hmoved
    have hnames : x = "i" ∨ x = "j" := by simpa [c, Expr.names] using hx
    rcases hnames with rfl | rfl
    · have hi : start.get? "i" = some v := (hstart "i" hx).trans hv
      rw [Store.get?_declare, Store.get?_declare] at hw
      exact hne (Option.some.inj (hw.symm.trans hi))
    · have hint : some (Value.int 3) = some v := hv
      have hbool : some (Value.bool true) = some w := by
        rw [← hw, Store.get?_declare, if_pos rfl]
      cases hint
      cases hbool
      cases hk

end Stmt

end WhileLang
