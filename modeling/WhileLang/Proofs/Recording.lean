import WhileLang.Proofs.Modes
import WhileLang.Proofs.Replay

namespace WhileLang

theorem Scoping.records_subset_declared (sc : Scoping) (s : Stmt) : sc.records s ⊆ s.declared := by
  cases sc with
  | flat => exact List.Subset.refl _
  | nested => exact s.declaredOutside_subset

namespace Stmt

variable {sc : Scoping} {s : Stmt} {Γ : Context} {x : String}

theorem get?_check_cases (sc : Scoping) (s : Stmt) (Γ : Context) (x : String) :
    (s.check sc Γ).context.get? x = Γ.get? x ∨
      x ∈ sc.records s ∧ ∃ τ, τ ≠ .illTyped ∧ (s.check sc Γ).context.get? x = some τ := by
  apply check_invariant sc (P := fun Δ => Δ.get? x = Γ.get? x ∨
    x ∈ sc.records s ∧ ∃ τ, τ ≠ .illTyped ∧ Δ.get? x = some τ) (List.Subset.refl _) _ (.inl rfl)
  intro Δ y τ hΔ hy hτ
  rw [Context.get?_declare]
  split
  · rename_i h
    exact .inr ⟨h ▸ hy, τ, hτ, rfl⟩
  · exact hΔ

theorem contains_check (sc : Scoping) (s : Stmt) (h : Γ.contains x) :
    (s.check sc Γ).context.contains x := by
  rw [Context.contains]
  rcases get?_check_cases sc s Γ x with hsame | ⟨-, τ, -, hτ⟩
  · rw [hsame]
    exact h
  · rw [hτ]
    rfl

theorem contains_check_of_records (hv : (s.check sc Γ).verdict = true) (hx : x ∈ sc.records s) :
    (s.check sc Γ).context.contains x := by
  induction s generalizing Γ with
  | seq s t ihs iht =>
    obtain ⟨hvs, hvt⟩ := Checked.verdict_andThen.1 hv
    rw [records_seq] at hx
    rw [check, Checked.andThen_of_verdict hvs]
    rcases List.mem_append.1 hx with hx | hx
    · exact contains_check sc t (ihs hvs hx)
    · exact iht hvt hx
  | declare y e =>
    have hy : x = y := by
      cases sc <;> exact List.mem_singleton.1 hx
    rw [check_declare] at hv ⊢
    split at hv
    · cases hv
    · rename_i he
      rw [if_neg he]
      exact (Γ.contains_declare y x _).2 (.inl hy.symm)
  | assign y e => cases sc <;> cases hx
  | whileDo c body ih =>
    cases sc with
    | nested => cases hx
    | flat =>
      obtain ⟨hc, hb⟩ := Checked.verdict_andThen.1 hv
      rw [check, Checked.andThen_of_verdict hc]
      exact ih hb hx
  | ifElse c s t ihs iht =>
    cases sc with
    | nested => cases hx
    | flat =>
      obtain ⟨hcs, ht⟩ := Checked.verdict_andThen.1 hv
      obtain ⟨hc, hs⟩ := Checked.verdict_andThen.1 hcs
      rw [check, Checked.andThen_of_verdict hcs]
      rw [Checked.andThen_of_verdict hc] at ht ⊢
      rcases List.mem_append.1 hx with hx | hx
      · exact contains_check .flat t (ihs hs hx)
      · exact iht ht hx
  | print e => cases sc <;> cases hx
  | block s ih => exact ih hv (records_block sc s ▸ hx)

theorem contains_check_iff (hv : (s.check sc Γ).verdict = true) :
    (s.check sc Γ).context.contains x ↔ Γ.contains x ∨ x ∈ sc.records s := by
  constructor
  · intro h
    rcases get?_check_cases sc s Γ x with hsame | ⟨hx, -⟩
    · rw [Context.contains, hsame] at h
      exact .inl h
    · exact .inr hx
  · rintro (h | hx)
    · exact contains_check sc s h
    · exact contains_check_of_records hv hx

theorem get?_check_of_ne (h : (s.check sc Γ).context.get? x ≠ Γ.get? x) :
    x ∈ s.declared ∧ ((s.check sc Γ).context.get? x = some .int ∨
      (s.check sc Γ).context.get? x = some .bool) := by
  obtain ⟨hrec, τ, hτ, hget⟩ := (get?_check_cases sc s Γ x).resolve_left h
  refine ⟨sc.records_subset_declared s hrec, ?_⟩
  cases τ with
  | int => exact .inl hget
  | bool => exact .inr hget
  | illTyped => exact absurd rfl hτ

end Stmt

theorem Program.contains_of_report {bound : Nat} {sc : Scoping} {p : Program} {report : Report}
    (h : p.report bound sc = some report) (hv : report.checked.verdict = true) (x : String) :
    (report.checked.context.contains x ↔ x ∈ sc.records p.body) ∧
      (report.store.contains x ↔ x ∈ p.body.declaredOutside) := by
  rw [report_eq_trace] at h
  obtain ⟨t, ht, rfl⟩ := Option.map_eq_some_iff.1 h
  have hexec := p.body.exec_eq_trace bound (.start Log.empty) .empty
  rw [ht, Option.map_some] at hexec
  have hcontext : ¬ Context.empty.contains x = true := by simp
  have hstore : ¬ Store.empty.contains x = true := by simp
  constructor
  · exact (Stmt.contains_check_iff hv).trans (or_iff_right hcontext)
  · exact ((Stmt.exec_frame hexec).contains_iff x).trans (or_iff_right hstore)

namespace Stmt

/-- A check takes no name away, also when it fails. An entry that it adds or changes is that of a
declared name, and its type is a proper one. When it succeeds, it has recorded all declared names,
or in the nested mode those that are declared outside of all bodies. So the types that an accepted
program is reported with are those of the variables that it leaves, and in the flat mode also those
of variables that are declared in bodies only. -/
theorem check_accounts_for_names :
    (∀ (sc : Scoping) (s : Stmt) (Γ : Context),
      (∀ x, Γ.contains x → (s.check sc Γ).context.contains x) ∧
        (∀ x, (s.check sc Γ).context.get? x ≠ Γ.get? x → x ∈ s.declared ∧
          ((s.check sc Γ).context.get? x = some .int ∨
            (s.check sc Γ).context.get? x = some .bool)) ∧
        ((∀ x, Γ.get? x ≠ some .illTyped) →
          ∀ x, (s.check sc Γ).context.get? x ≠ some .illTyped)) ∧
      (∀ (s : Stmt) (Γ : Context),
        ((s.check .flat Γ).verdict = true → ∀ x,
          (s.check .flat Γ).context.contains x ↔ Γ.contains x ∨ x ∈ s.declared) ∧
        ((s.check .nested Γ).verdict = true → ∀ x,
          (s.check .nested Γ).context.contains x ↔ Γ.contains x ∨ x ∈ s.declaredOutside)) ∧
      ∀ p : Program, (∃ r, p.body.Runs (.start Log.empty) .empty r) →
        (∀ sc, ∃ bound report, p.report bound sc = some report) ∧
          (∀ bound report, p.report bound .nested = some report →
            report.checked.verdict = true →
              ∀ x, report.checked.context.contains x ↔ report.store.contains x) ∧
          ∀ bound report, p.report bound .flat = some report → report.checked.verdict = true →
            ∀ x, (report.store.contains x → report.checked.context.contains x) ∧
              (report.checked.context.contains x → ¬ report.store.contains x →
                x ∈ p.body.declaredInside ∧ x ∉ p.body.declaredOutside) := by
  refine ⟨?_, ?_, ?_⟩
  · intro sc s Γ
    refine ⟨fun x => contains_check sc s, fun x => get?_check_of_ne, ?_⟩
    intro hΓ x hx
    rcases get?_check_cases sc s Γ x with hsame | ⟨-, τ, hτ, hget⟩
    · exact hΓ x (hsame ▸ hx)
    · exact hτ (Option.some.inj (hget.symm.trans hx))
  · intro s Γ
    exact ⟨fun hv x => contains_check_iff hv, fun hv x => contains_check_iff hv⟩
  · intro p hends
    refine ⟨fun sc => Program.exists_report sc hends, ?_, ?_⟩
    · intro bound report h hv x
      obtain ⟨hcontext, hstore⟩ := Program.contains_of_report h hv x
      exact hcontext.trans hstore.symm
    · intro bound report h hv x
      obtain ⟨hcontext, hstore⟩ := Program.contains_of_report h hv x
      rw [hcontext, hstore]
      refine ⟨fun hx => p.body.declaredOutside_subset hx, fun hx hout => ⟨?_, hout⟩⟩
      exact (List.mem_append.1 (mem_declared.1 hx)).resolve_left hout

theorem check_accounts_for_names_fib :
    let p := Gallery.fib
    (∃ r, p.body.Runs (.start Log.empty) .empty r) ∧
      ∃ bound flat nested, p.report bound .flat = some flat ∧
        p.report bound .nested = some nested ∧
        flat.checked.verdict = true ∧ nested.checked.verdict = true ∧
        (∀ x, nested.checked.context.contains x ↔ nested.store.contains x) ∧
        flat.checked.context.contains "sum" ∧ ¬ flat.store.contains "sum" ∧
        "sum" ∈ p.body.declaredInside ∧ "sum" ∉ p.body.declaredOutside := by
  intro p
  have hends : (p.body.exec 12 (.start Log.empty) .empty).isSome := by decide +kernel
  have hflat : (p.report 12 .flat).map (fun r => (r.checked.verdict,
      r.checked.context.contains "sum", r.store.contains "sum")) = some (true, true, false) := by
    decide +kernel
  have hnested : (p.report 12 .nested).map (fun r => r.checked.verdict) = some true := by
    decide +kernel
  obtain ⟨r, hr⟩ := Option.isSome_iff_exists.1 hends
  obtain ⟨flat, hf, hflat⟩ := Option.map_eq_some_iff.1 hflat
  obtain ⟨nested, hn, hvn⟩ := Option.map_eq_some_iff.1 hnested
  simp only [Prod.mk.injEq] at hflat
  obtain ⟨hvf, hsum, hlocal⟩ := hflat
  have hunbound : ¬ flat.store.contains "sum" = true := by simp [hlocal]
  have hruns : ∃ r, p.body.Runs (.start Log.empty) .empty r := ⟨r, 12, hr⟩
  obtain ⟨-, hsame, hmore⟩ := check_accounts_for_names.2.2 p hruns
  exact ⟨hruns, 12, flat, nested, hf, hn, hvf, hvn, hsame 12 nested hn hvn, hsum, hunbound,
    (hmore 12 flat hf hvf "sum").2 hsum hunbound⟩

end Stmt

end WhileLang
