import WhileLang.Proofs.Courses

namespace WhileLang

namespace Stmt

variable {σ : Type} [Sink σ] {s t : Stmt}

theorem runs_seq_iff {m : Machine σ} {env : Store} {r : Machine σ × Store} :
    (seq s t).Runs m env r ↔ ∃ m₁ env₁, s.Runs m env (m₁, env₁) ∧ t.Runs m₁ env₁ r := by
  constructor
  · rintro ⟨k, hk⟩
    obtain ⟨m₁, env₁, hs, ht⟩ := exec_seq_cases hk
    exact ⟨m₁, env₁, ⟨k, hs⟩, k, ht⟩
  · rintro ⟨m₁, env₁, hs, ht⟩
    exact hs.seq ht

theorem leaves_seq_iff {env env' : Store} {es : List Event} :
    (seq s t).Leaves env es env' ↔
      ∃ fs env₁ gs, s.Leaves env fs env₁ ∧ t.Leaves env₁ gs env' ∧ es = fs ++ gs := by
  constructor
  · intro h
    obtain ⟨m₁, env₁, hs, ht⟩ := runs_seq_iff.1 (h.runs (.start Log.empty))
    obtain ⟨fs, _, hfs, he⟩ := runs_iff_leaves.1 hs
    obtain ⟨rfl, rfl⟩ := Prod.mk.inj he
    obtain ⟨gs, _, hgs, he⟩ := runs_iff_leaves.1 ht
    obtain ⟨hfeed, rfl⟩ := Prod.mk.inj he
    rw [← Machine.feed_append] at hfeed
    exact ⟨fs, env₁, gs, hfs, hgs, Machine.feed_inj hfeed⟩
  · rintro ⟨fs, env₁, gs, hfs, hgs, rfl⟩
    exact hfs.seq hgs

theorem exec_chain_append (k : Nat) (first : Stmt) (rest : List Stmt) (next : Stmt)
    (more : List Stmt) :
    ((first.chain (rest ++ next :: more)).exec k : Machine σ → Store → _) =
      (seq (first.chain rest) (next.chain more)).exec k := by
  induction rest generalizing first with
  | nil => rfl
  | cons line rest ih =>
    funext m env
    rw [List.cons_append, chain, chain, exec_seq, ih, exec_seq, exec_seq, Option.bind_assoc]
    rfl

theorem check_chain_append (sc : Scoping) (first : Stmt) (rest : List Stmt) (next : Stmt)
    (more : List Stmt) :
    (first.chain (rest ++ next :: more)).check sc =
      (seq (first.chain rest) (next.chain more)).check sc := by
  induction rest generalizing first with
  | nil => rfl
  | cons line rest ih =>
    funext Γ
    rw [List.cons_append, chain, chain, check, ih, check, check, Checked.andThen_assoc]
    rfl

theorem runs_chain_append_iff {first next : Stmt} {rest more : List Stmt} {m : Machine σ}
    {env : Store} {r : Machine σ × Store} :
    (first.chain (rest ++ next :: more)).Runs m env r ↔
      ∃ m₁ env₁, (first.chain rest).Runs m env (m₁, env₁) ∧ (next.chain more).Runs m₁ env₁ r := by
  rw [← runs_seq_iff, Runs, Runs]
  simp only [exec_chain_append]

theorem leaves_chain_append_iff {first next : Stmt} {rest more : List Stmt} {env env' : Store}
    {es : List Event} :
    (first.chain (rest ++ next :: more)).Leaves env es env' ↔
      ∃ fs env₁ gs, (first.chain rest).Leaves env fs env₁ ∧
        (next.chain more).Leaves env₁ gs env' ∧ es = fs ++ gs := by
  rw [← leaves_seq_iff, Leaves, Leaves]
  simp only [trace, exec_chain_append]

theorem text_chain (first : Stmt) (rest : List Stmt) :
    (first.chain rest).text = ";\n".intercalate ((first :: rest).map text) := by
  induction rest generalizing first with
  | nil => exact String.intercalate_singleton.symm
  | cons next rest ih =>
    rw [chain, text, ih, List.map_cons, List.map_cons, List.map_cons, String.intercalate_cons_cons]

theorem chain_concat (first : Stmt) (rest : List Stmt) (last : Stmt) :
    first.chain (rest ++ [last]) = (first :: rest).foldr seq last := by
  induction rest generalizing first with
  | nil => rfl
  | cons next rest ih => exact congrArg (seq first) (ih next)

theorem ofLines_concat (lines : List Stmt) (last : Stmt) :
    ofLines (lines ++ [last]) = .ok (lines.foldr seq last) := by
  cases lines with
  | nil => rfl
  | cons first rest => exact congrArg Except.ok (chain_concat first rest last)

end Stmt

namespace Program

variable {σ : Type} [Sink σ]

theorem run_iff_leaves {p : Program} {out : σ} {env : Store} {r : σ × Store} :
    (∃ bound, p.run bound out env = some r) ↔
      ∃ es env', p.body.Leaves env es env' ∧ r = (es.foldl emit out, env') := by
  constructor
  · rintro ⟨bound, h⟩
    rw [run_eq_trace] at h
    obtain ⟨⟨es, env'⟩, ht, rfl⟩ := Option.map_eq_some_iff.1 h
    exact ⟨es, env', ⟨bound, ht⟩, rfl⟩
  · rintro ⟨es, env', ⟨bound, ht⟩, rfl⟩
    exact ⟨bound, by rw [run_eq_trace, ht, Option.map_some]⟩

theorem run_chain_append_iff {first next : Stmt} {rest more : List Stmt} {out : σ} {env : Store}
    {r : σ × Store} :
    (∃ bound, (mk (first.chain (rest ++ next :: more))).run bound out env = some r) ↔
      ∃ out₁ env₁, (∃ bound, (mk (first.chain rest)).run bound out env = some (out₁, env₁)) ∧
        ∃ bound, (mk (next.chain more)).run bound out₁ env₁ = some r := by
  constructor
  · intro h
    obtain ⟨es, env', hes, rfl⟩ := run_iff_leaves.1 h
    obtain ⟨fs, env₁, gs, hfs, hgs, rfl⟩ := Stmt.leaves_chain_append_iff.1 hes
    rw [List.foldl_append]
    exact ⟨_, env₁, run_iff_leaves.2 ⟨fs, env₁, hfs, rfl⟩, run_iff_leaves.2 ⟨gs, env', hgs, rfl⟩⟩
  · rintro ⟨out₁, env₁, hp, hq⟩
    obtain ⟨fs, _, hfs, he⟩ := run_iff_leaves.1 hp
    obtain ⟨rfl, rfl⟩ := Prod.mk.inj he
    obtain ⟨gs, env', hgs, rfl⟩ := run_iff_leaves.1 hq
    have hes := Stmt.leaves_chain_append_iff.2 ⟨fs, env₁, gs, hfs, hgs, rfl⟩
    exact run_iff_leaves.2 ⟨_, env', hes, by rw [List.foldl_append]⟩

/-- Only from no lines no program is built. A program of two lists of lines runs like the programs
of the first and of the second one after each other, on one machine or each on its own, and it is
checked like them, if the first one is accepted. Its text is that of the lines with separators
between. -/
theorem ofLines_append :
    (∀ lines, (Stmt.ofLines lines = .error .emptySequence ↔ lines = []) ∧
      (ofLines lines = .error .emptySequence ↔ lines = [])) ∧
    (∀ lines last, Stmt.ofLines (lines ++ [last]) = .ok (lines.foldr .seq last)) ∧
    (∀ lines, lines ≠ [] → ∃ s, Stmt.ofLines lines = .ok s ∧ ofLines lines = .ok ⟨s⟩ ∧
      s.text = ";\n".intercalate (lines.map Stmt.text)) ∧
    ∀ xs ys, xs ≠ [] → ys ≠ [] →
      ∃ p q pq, ofLines xs = .ok p ∧ ofLines ys = .ok q ∧ ofLines (xs ++ ys) = .ok pq ∧
        (∀ (m : Machine σ) env r, (∃ bound, pq.runOn bound m env = some r) ↔
          ∃ m₁ env₁, (∃ bound, p.runOn bound m env = some (m₁, env₁)) ∧
            ∃ bound, q.runOn bound m₁ env₁ = some r) ∧
        (∀ (out : σ) env r, (∃ bound, pq.run bound out env = some r) ↔
          ∃ out₁ env₁, (∃ bound, p.run bound out env = some (out₁, env₁)) ∧
            ∃ bound, q.run bound out₁ env₁ = some r) ∧
        ∀ sc Γ,
          ((p.check sc Γ).verdict = true → pq.check sc Γ = q.check sc (p.check sc Γ).context) ∧
            ((p.check sc Γ).verdict = false → pq.check sc Γ = p.check sc Γ) := by
  refine ⟨?_, Stmt.ofLines_concat, ?_, ?_⟩
  · intro lines
    cases lines with
    | nil => exact ⟨iff_of_true rfl rfl, iff_of_true rfl rfl⟩
    | cons first rest => exact ⟨iff_of_false nofun nofun, iff_of_false nofun nofun⟩
  · intro lines hne
    obtain ⟨first, rest, rfl⟩ := List.exists_cons_of_ne_nil hne
    exact ⟨first.chain rest, rfl, rfl, Stmt.text_chain first rest⟩
  · intro xs ys hxs hys
    obtain ⟨first, rest, rfl⟩ := List.exists_cons_of_ne_nil hxs
    obtain ⟨next, more, rfl⟩ := List.exists_cons_of_ne_nil hys
    refine ⟨⟨first.chain rest⟩, ⟨next.chain more⟩, ⟨first.chain (rest ++ next :: more)⟩, rfl, rfl,
      rfl, fun _ _ _ => Stmt.runs_chain_append_iff, fun _ _ _ => run_chain_append_iff, ?_⟩
    intro sc Γ
    have hcheck := congrFun (Stmt.check_chain_append sc first rest next more) Γ
    constructor
    · intro hv
      exact hcheck.trans (Checked.andThen_of_verdict hv)
    · intro hv
      exact hcheck.trans (Checked.andThen_of_not_verdict (Bool.not_eq_true _ ▸ hv))

theorem ofLines_append_rejectedFirst :
    let xs : List Stmt := [.declare "x" (.num 1),
      .block (.seq (.print (.var "x")) (.assign "x" (.bool true)))]
    let ys : List Stmt := [.seq (.declare "y" (.var "x")) (.print (.var "y")), .print (.num 2)]
    xs ≠ [] ∧ ys ≠ [] ∧ ∃ p q pq, ofLines xs = .ok p ∧ ofLines ys = .ok q ∧
      ofLines (xs ++ ys) = .ok pq ∧
      (∃ m₁ env₁ m env, (∃ bound, p.runOn bound (.start Log.empty) .empty = some (m₁, env₁)) ∧
        (∃ bound, q.runOn bound m₁ env₁ = some (m, env)) ∧
        (∃ bound, pq.runOn bound (.start Log.empty) .empty = some (m, env)) ∧
        m.out.events.toList.map Event.text =
          ["1", "Error: AssignmentKindMismatch (Variable `x` holds `Int`, received `Bool`; " ++
            "re-declare it to change its kind)\n-> x = true", "1", "2"] ∧
        env.get? "x" = some (.int 1) ∧ env.get? "y" = some (.int 1)) ∧
      (p.check .flat .empty).verdict = false ∧ pq.check .flat .empty = p.check .flat .empty ∧
      ∃ s, Stmt.ofLines xs = .ok s ∧ s.text = ";\n".intercalate (xs.map Stmt.text) := by
  intro xs ys
  have hxs : xs ≠ [] := List.cons_ne_nil _ _
  have hys : ys ≠ [] := List.cons_ne_nil _ _
  obtain ⟨-, -, htext, happend⟩ := ofLines_append (σ := Log)
  obtain ⟨s, hs, -, hstext⟩ := htext xs hxs
  obtain ⟨p, q, pq, hp, hq, hpq, hruns, -, hcheck⟩ := happend xs ys hxs hys
  have hv : ∀ p, ofLines xs = .ok p → (p.check .flat .empty).verdict = false := by
    rintro _ ⟨⟩
    decide +kernel
  have hrun : ∀ pq, ofLines (xs ++ ys) = .ok pq → ∃ m env,
      pq.runOn 0 (.start Log.empty) .empty = some (m, env) ∧
        m.out.events.toList.map Event.text =
          ["1", "Error: AssignmentKindMismatch (Variable `x` holds `Int`, received `Bool`; " ++
            "re-declare it to change its kind)\n-> x = true", "1", "2"] ∧
        env.get? "x" = some (.int 1) ∧ env.get? "y" = some (.int 1) := by
    rintro _ ⟨⟩
    exact ⟨_, _, rfl, by decide +kernel, by decide +kernel, by decide +kernel⟩
  obtain ⟨m, env, hr, hshown⟩ := hrun pq hpq
  obtain ⟨m₁, env₁, h₁, h₂⟩ := (hruns _ _ (m, env)).1 ⟨0, hr⟩
  exact ⟨hxs, hys, p, q, pq, hp, hq, hpq, ⟨m₁, env₁, m, env, h₁, h₂, ⟨0, hr⟩, hshown⟩, hv p hp,
    (hcheck .flat .empty).2 (hv p hp), s, hs, hstext⟩

end Program

end WhileLang
