import WhileLang.Proofs.Relevance
import WhileLang.Report

namespace WhileLang

variable {σ : Type} [Sink σ]

namespace Machine

theorem out_record (m : Machine σ) (e : Event) : (m.record e).out = emit m.out e := by
  cases e <;> rfl

theorem out_feed (m : Machine σ) (es : List Event) : (m.feed es).out = es.foldl emit m.out := by
  induction es generalizing m with
  | nil => rfl
  | cons e es ih =>
    rw [List.foldl_cons, ← out_record]
    exact ih (m.record e)

theorem diagnostics_feed (m : Machine σ) (es : List Event) :
    (m.feed es).diagnostics = m.diagnostics + (es.filterMap Event.diagnostic?).length := by
  induction es generalizing m with
  | nil => rfl
  | cons e es ih =>
    have htail := ih (m.record e)
    cases e with
    | line text => exact htail
    | diagnostic d => exact htail.trans (Nat.add_right_comm ..)

end Machine

theorem Log.emit_eq (log : Log) (e : Event) : emit log e = ⟨log.events.push e⟩ := rfl

theorem Log.foldl_emit (log : Log) (es : List Event) :
    es.foldl emit log = ⟨log.events ++ es.toArray⟩ := by
  induction es generalizing log with
  | nil => rw [List.foldl_nil, Array.append_empty]
  | cons e es ih =>
    rw [List.foldl_cons, ih, emit_eq, Array.push_eq_append, Array.append_assoc,
      ← List.toArray_cons]

theorem Machine.feed_eq (m : Machine Log) (es : List Event) :
    m.feed es =
      ⟨⟨m.out.events ++ es.toArray⟩, m.diagnostics + (es.filterMap Event.diagnostic?).length⟩ := by
  rw [← m.diagnostics_feed es, ← Log.foldl_emit, ← m.out_feed es]

namespace Stmt

/-- What a run from a store leaves on every machine: its events, and the store at its end. -/
def trace (bound : Nat) (s : Stmt) (env : Store) : Option (List Event × Store) :=
  (s.exec bound (.start Log.empty) env).map fun r => (r.1.out.events.toList, r.2)

/-- A run does not look at its machine, so that what it leaves on an empty log can be replayed on
any other machine. -/
theorem exec_eq_trace (bound : Nat) (s : Stmt) (m : Machine σ) (env : Store) :
    s.exec bound m env = (s.trace bound env).map fun t => (m.feed t.1, t.2) := by
  have hself : Matches Log σ Eq Set.univ bound s s := matches_self bound fun x _ => Set.mem_univ x
  have hrel := hself (.start Log.empty) m env env (.refl _ env)
  rw [trace, Option.map_map]
  apply eq_map_of_optionRel hrel
  rintro r q - ⟨⟨es, fs, hes, hfs, hsame⟩, hstores⟩
  have hlog : r.1.out.events.toList = es := by
    rw [hes, Machine.feed_eq, Array.toList_append]
    rfl
  have heq : es = fs := List.forall₂_eq_eq_eq ▸ hsame
  have hm : q.1 = m.feed r.1.out.events.toList := by rw [hfs, hlog, heq]
  exact Prod.ext hm hstores.eq_of_univ.symm

theorem runs_iff_trace {s : Stmt} {m : Machine σ} {env : Store} {r : Machine σ × Store} :
    s.Runs m env r ↔ ∃ bound t, s.trace bound env = some t ∧ (m.feed t.1, t.2) = r :=
  exists_congr fun bound => by rw [exec_eq_trace, Option.map_eq_some_iff]

end Stmt

namespace Program

theorem runOn_eq_trace (bound : Nat) (p : Program) (m : Machine σ) (env : Store) :
    p.runOn bound m env = (p.body.trace bound env).map fun t => (m.feed t.1, t.2) :=
  p.body.exec_eq_trace bound m env

theorem run_eq_trace (bound : Nat) (p : Program) (out : σ) (env : Store) :
    p.run bound out env = (p.body.trace bound env).map fun t => (t.1.foldl emit out, t.2) := by
  rw [run, runOn_eq_trace]
  cases p.body.trace bound env with
  | none => rfl
  | some t => exact congrArg (fun out' => some (out', t.2)) (Machine.out_feed (.start out) t.1)

theorem report_eq_trace (bound : Nat) (sc : Scoping) (p : Program) :
    p.report bound sc = (p.body.trace bound .empty).map fun t =>
      ⟨p.text, p.check sc .empty, t.2, ⟨t.1.toArray⟩⟩ := by
  rw [report, run_eq_trace]
  cases p.body.trace bound .empty with
  | none => rfl
  | some t =>
    have hlog : t.1.foldl emit Log.empty = ⟨t.1.toArray⟩ := by
      rw [Log.foldl_emit]
      exact congrArg Log.mk (Array.empty_append ..)
    exact congrArg (fun log => some (Report.mk p.text (p.check sc .empty) t.2 log)) hlog

theorem exists_report {p : Program} {out : σ} (sc : Scoping)
    (h : ∃ r, p.body.Runs (.start out) .empty r) :
    ∃ bound report, p.report bound sc = some report := by
  obtain ⟨r, hr⟩ := h
  obtain ⟨bound, t, ht, -⟩ := Stmt.runs_iff_trace.1 hr
  exact ⟨bound, _, by rw [report_eq_trace, ht, Option.map_some]⟩

end Program

end WhileLang
