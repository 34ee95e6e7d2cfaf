import WhileLang.Proofs.Replay

namespace WhileLang

variable {σ : Type} [Sink σ]

/-- A run of the statement from `env` ends. On whatever machine it runs, it leaves the events `es`
there, and the store `env'`. -/
def Stmt.Leaves (s : Stmt) (env : Store) (es : List Event) (env' : Store) : Prop :=
  ∃ bound, s.trace bound env = some (es, env')

theorem Stmt.Leaves.runs {s : Stmt} {env env' : Store} {es : List Event}
    (h : s.Leaves env es env') (m : Machine σ) : s.Runs m env (m.feed es, env') := by
  obtain ⟨bound, ht⟩ := h
  exact runs_iff_trace.2 ⟨bound, _, ht, rfl⟩

theorem Stmt.runs_iff_leaves {s : Stmt} {m : Machine σ} {env : Store} {r : Machine σ × Store} :
    s.Runs m env r ↔ ∃ es env', s.Leaves env es env' ∧ r = (m.feed es, env') := by
  constructor
  · intro h
    obtain ⟨bound, ⟨es, env'⟩, ht, rfl⟩ := runs_iff_trace.1 h
    exact ⟨es, env', ⟨bound, ht⟩, rfl⟩
  · rintro ⟨es, env', h, rfl⟩
    exact h.runs m

theorem Machine.feed_inj {m : Machine Log} {es fs : List Event} (h : m.feed es = m.feed fs) :
    es = fs := by
  rw [feed_eq, feed_eq] at h
  have hevents : (m.out.events ++ es.toArray).toList = (m.out.events ++ fs.toArray).toList :=
    congrArg (fun q : Machine Log => q.out.events.toList) h
  rw [Array.toList_append, Array.toList_append] at hevents
  exact List.append_cancel_left hevents

namespace Stmt

variable {s t : Stmt} {env env₁ env₂ : Store} {es fs : List Event} {m m₁ : Machine σ}
  {r : Machine σ × Store}

theorem Runs.seq (hs : s.Runs m env (m₁, env₁)) (ht : t.Runs m₁ env₁ r) :
    (seq s t).Runs m env r := by
  obtain ⟨k, hk⟩ := hs
  obtain ⟨n, hn⟩ := ht
  refine ⟨max k n, ?_⟩
  rw [exec_seq, exec_mono (Nat.le_max_left k n) _ _ _ _ hk]
  exact exec_mono (Nat.le_max_right k n) _ _ _ _ hn

theorem leaves_of_runs (h : ∀ m : Machine Log, s.Runs m env (m.feed es, env₁)) :
    s.Leaves env es env₁ := by
  obtain ⟨fs, env₂, hleaves, he⟩ := runs_iff_leaves.1 (h (.start Log.empty))
  obtain ⟨hfeed, rfl⟩ := Prod.mk.inj he
  exact Machine.feed_inj hfeed ▸ hleaves

theorem Leaves.seq (hs : s.Leaves env es env₁) (ht : t.Leaves env₁ fs env₂) :
    (seq s t).Leaves env (es ++ fs) env₂ := by
  apply leaves_of_runs
  intro m
  rw [Machine.feed_append]
  exact (hs.runs m).seq (ht.runs _)

theorem Leaves.unique (h : s.Leaves env es env₁) (h' : s.Leaves env fs env₂) :
    es = fs ∧ env₁ = env₂ := by
  have hsame := (h.runs (.start Log.empty)).unique (h'.runs _)
  obtain ⟨hfeed, henv⟩ := Prod.mk.inj hsame
  exact ⟨Machine.feed_inj hfeed, henv⟩

end Stmt

/-- How a loop that was entered with the store `outer` goes on from the store `start` to its end.
`entry i` is the store that the condition sees before round `i`, and `exit i` the one that the body
makes of it. After the last round nothing is said of them. -/
structure Course (c : Expr) (body : Stmt) (outer start : Store) where
  rounds : Nat
  entry : Nat → Store
  events : Nat → List Event
  exit : Nat → Store
  entry_zero : entry 0 = start
  holds : ∀ i < rounds, c.eval (entry i) = .bool true
  leaves : ∀ i < rounds, body.Leaves (entry i) (events i) (exit i)
  entry_succ : ∀ i < rounds, entry (i + 1) = outer.merge (exit i)
  stops : c.eval (entry rounds) ≠ .bool true

/-- What a loop reports of the store that ends it: a condition that is no truth value. -/
def Expr.stopEvents (c : Expr) (env : Store) : List Event :=
  if c.eval env = .bool false then [] else [.diagnostic (.condition "while" c (c.eval env).kind)]

namespace Course

variable {c : Expr} {body : Stmt} {outer start inner : Store} {es : List Event}

def last (C : Course c body outer start) : Store := C.entry C.rounds

/-- The events of the rounds in order, and the report if the condition is no truth value at the
end. -/
def log (C : Course c body outer start) : List Event :=
  (List.range C.rounds).flatMap C.events ++ c.stopEvents C.last

def halt (h : c.eval start ≠ .bool true) : Course c body outer start where
  rounds := 0
  entry _ := start
  events _ := []
  exit _ := start
  entry_zero := rfl
  holds i hi := absurd hi i.not_lt_zero
  leaves i hi := absurd hi i.not_lt_zero
  entry_succ i hi := absurd hi i.not_lt_zero
  stops := h

def cons (hc : c.eval start = .bool true) (hb : body.Leaves start es inner)
    (C : Course c body outer (outer.merge inner)) : Course c body outer start where
  rounds := C.rounds + 1
  entry
    | 0 => start
    | i + 1 => C.entry i
  events
    | 0 => es
    | i + 1 => C.events i
  exit
    | 0 => inner
    | i + 1 => C.exit i
  entry_zero := rfl
  holds i hi := by
    cases i with
    | zero => exact hc
    | succ i => exact C.holds i (Nat.lt_of_succ_lt_succ hi)
  leaves i hi := by
    cases i with
    | zero => exact hb
    | succ i => exact C.leaves i (Nat.lt_of_succ_lt_succ hi)
  entry_succ i hi := by
    cases i with
    | zero => exact C.entry_zero
    | succ i => exact C.entry_succ i (Nat.lt_of_succ_lt_succ hi)
  stops := C.stops

/-- What follows the first round. It is also a course of a loop that was entered with another store,
if the later rounds settle on the same values with that one. -/
def tail (C : Course c body outer start) {n : Nat} (hn : C.rounds = n + 1) (outer' : Store)
    (h : ∀ i < n, outer'.merge (C.exit (i + 1)) = outer.merge (C.exit (i + 1))) :
    Course c body outer' (outer.merge (C.exit 0)) where
  rounds := n
  entry i := C.entry (i + 1)
  events i := C.events (i + 1)
  exit i := C.exit (i + 1)
  entry_zero := C.entry_succ 0 (by omega)
  holds i hi := C.holds (i + 1) (by omega)
  leaves i hi := C.leaves (i + 1) (by omega)
  entry_succ i hi := (C.entry_succ (i + 1) (by omega)).trans (h i hi).symm
  stops := hn ▸ C.stops

theorem last_tail (C : Course c body outer start) {n : Nat} (hn : C.rounds = n + 1) (outer' : Store)
    (h : ∀ i < n, outer'.merge (C.exit (i + 1)) = outer.merge (C.exit (i + 1))) :
    (C.tail hn outer' h).last = C.last :=
  congrArg C.entry hn.symm

theorem log_tail (C : Course c body outer start) {n : Nat} (hn : C.rounds = n + 1) (outer' : Store)
    (h : ∀ i < n, outer'.merge (C.exit (i + 1)) = outer.merge (C.exit (i + 1))) :
    C.log = C.events 0 ++ (C.tail hn outer' h).log := by
  rw [log, log, last_tail, hn, List.range_succ_eq_map, List.flatMap_cons, List.flatMap_map,
    List.append_assoc]
  rfl

theorem log_cons (hc : c.eval start = .bool true) (hb : body.Leaves start es inner)
    (C : Course c body outer (outer.merge inner)) : (cons hc hb C).log = es ++ C.log :=
  log_tail (cons hc hb C) rfl outer fun _ _ => rfl

theorem rounds_pos_iff (C : Course c body outer start) :
    0 < C.rounds ↔ c.eval start = .bool true := by
  constructor
  · intro h
    exact C.entry_zero ▸ C.holds 0 h
  · intro hc
    apply Nat.pos_of_ne_zero
    intro hn
    have hstop := C.stops
    rw [hn, C.entry_zero] at hstop
    exact hstop hc

/-- What holds before the first round, and is kept by each round and the merge after it, holds at
every check of the condition. -/
theorem entry_invariant (C : Course c body outer start) {P : Nat → Store → Prop}
    (hstart : P 0 start)
    (hround : ∀ i < C.rounds, P i (C.entry i) → P (i + 1) (outer.merge (C.exit i))) {i : Nat}
    (hi : i ≤ C.rounds) : P i (C.entry i) := by
  induction i with
  | zero =>
    rw [C.entry_zero]
    exact hstart
  | succ i ih =>
    rw [C.entry_succ i hi]
    exact hround i hi (ih (Nat.le_of_lt hi))

theorem kind?_entry (C : Course c body outer start) (hk : ∀ x, start.kind? x = outer.kind? x)
    {i : Nat} (hi : i ≤ C.rounds) (x : String) : (C.entry i).kind? x = outer.kind? x := by
  cases i with
  | zero => rw [C.entry_zero, hk]
  | succ i => rw [C.entry_succ i hi, Store.kind?_merge]

theorem merge_last (C : Course c body outer start) (hk : ∀ x, start.kind? x = outer.kind? x) :
    outer.merge C.last = C.last :=
  Store.merge_eq_of_kind? fun x => C.kind?_entry hk (Nat.le_refl _) x

end Course

theorem loopRound_of_stops {c : Expr} {body : Machine σ → Store → Option (Machine σ × Store)}
    {outer inner : Store} {m : Machine σ} (h : c.eval inner ≠ .bool true) :
    loopRound c body outer (m, inner) = some (.done (m.feed (c.stopEvents inner), inner)) := by
  rcases (c.eval inner).truth_cases with hc | hc | hc
  · exact absurd hc h
  · rw [loopRound_of_false hc, Expr.stopEvents, if_pos hc]
    rfl
  · rw [loopRound_of_kind hc, Expr.stopEvents, if_neg fun he => hc (congrArg Value.kind he)]
    rfl

namespace Stmt

variable {c : Expr} {body : Stmt} {outer start env env' : Store} {m m' : Machine σ}
  {r : Machine σ × Store}

theorem exists_course {k bound : Nat}
    (h : iterate (loopRound c (body.exec k) outer) bound (m, start) = some r) :
    ∃ C : Course c body outer start, r = (m.feed C.log, C.last) := by
  induction bound generalizing m start with
  | zero => cases h
  | succ bound ih =>
    rw [iterate] at h
    by_cases hc : c.eval start = .bool true
    · rw [loopRound_of_true hc] at h
      cases hb : body.exec k m start with
      | none =>
        rw [hb] at h
        cases h
      | some q =>
        rw [hb] at h
        obtain ⟨es, inner, hleaves, rfl⟩ := runs_iff_leaves.1 ⟨k, hb⟩
        obtain ⟨C, rfl⟩ := ih h
        refine ⟨.cons hc hleaves C, ?_⟩
        rw [Course.log_cons, Machine.feed_append]
        rfl
    · rw [loopRound_of_stops hc] at h
      cases h
      exact ⟨.halt hc, rfl⟩

theorem iterate_of_course (C : Course c body outer start) (m : Machine σ) :
    ∃ k, iterate (loopRound c (body.exec k) outer) k (m, start) = some (m.feed C.log, C.last) := by
  generalize hn : C.rounds = n
  induction n generalizing start m with
  | zero =>
    have hlast : C.last = start := by rw [Course.last, hn, C.entry_zero]
    have hstop : c.eval start ≠ .bool true := hlast ▸ C.stops
    refine ⟨1, ?_⟩
    rw [iterate, loopRound_of_stops hstop, Course.log, hn, hlast]
    rfl
  | succ n ih =>
    have hfirst : 0 < C.rounds := by omega
    have hc : c.eval start = .bool true := C.entry_zero ▸ C.holds 0 hfirst
    obtain ⟨k₀, hb⟩ := (C.entry_zero ▸ C.leaves 0 hfirst).runs m
    obtain ⟨k₁, hk₁⟩ := ih (C.tail hn outer fun _ _ => rfl) (m.feed (C.events 0)) rfl
    rw [Course.last_tail, ← Machine.feed_append, ← Course.log_tail] at hk₁
    refine ⟨max k₀ k₁ + 1, ?_⟩
    have hb' := exec_mono (Nat.le_succ_of_le (Nat.le_max_left k₀ k₁)) _ _ _ _ hb
    have hrest := iterate_mono (loopRound_mono
      (exec_mono (Nat.le_succ_of_le (Nat.le_max_right k₀ k₁)) body) c outer)
      (Nat.le_max_right k₀ k₁) hk₁
    rw [iterate, loopRound_of_true hc, hb']
    exact hrest

/-- A loop ends exactly when it has a course, and then as the course says. -/
theorem runs_whileDo_iff :
    (whileDo c body).Runs m env r ↔ ∃ C : Course c body env env, r = (m.feed C.log, C.last) := by
  constructor
  · rintro ⟨k, hk⟩
    rw [exec_whileDo] at hk
    obtain ⟨q, hq, rfl⟩ := Option.map_eq_some_iff.1 hk
    obtain ⟨C, rfl⟩ := exists_course hq
    exact ⟨C, by rw [C.merge_last fun _ => rfl]⟩
  · rintro ⟨C, rfl⟩
    obtain ⟨k, hk⟩ := iterate_of_course C m
    refine ⟨k, ?_⟩
    rw [exec_whileDo, hk, Option.map_some, C.merge_last fun _ => rfl]

/-- A loop that ends has gone through rounds, each of which the condition allowed and each of
which began with the names and kinds of the outer store. It leaves the store at which the
condition stopped it, and the events of the rounds, with a report after them if the condition was
not false. -/
theorem Runs.whileDo_course (h : (whileDo c body).Runs m env (m', env')) :
    ∃ C : Course c body env env,
      env' = C.entry C.rounds ∧
      (∀ i ≤ C.rounds, ∀ x, (C.entry i).kind? x = env.kind? x) ∧
      m' = m.feed
        ((List.range C.rounds).flatMap C.events ++ c.stopEvents (C.entry C.rounds)) := by
  obtain ⟨C, hr⟩ := runs_whileDo_iff.1 h
  obtain ⟨rfl, rfl⟩ := Prod.mk.inj hr
  exact ⟨C, rfl, fun i hi x => C.kind?_entry (fun _ => rfl) hi x, rfl⟩

/-- After two rounds the right operand is needed, which is undefined. What the rounds did stays. -/
theorem Runs.whileDo_course_turnsUndefined :
    let c := Expr.binary .or (.binary .lt (.var "x") (.num 2)) (.var "u")
    let body := chain (.print (.var "x")) [
      .assign "x" (.binary .add (.var "x") (.num 1)),
      .declare "y" (.bool true)]
    let m := Machine.start Log.empty
    let env := Store.empty.declare "x" (.int 0)
    ∃ m' env', (whileDo c body).Runs m env (m', env') ∧
      m'.diagnostics = 1 ∧ env'.get? "x" = some (.int 2) ∧
      ∃ C : Course c body env env,
        env' = C.entry C.rounds ∧
        (∀ i ≤ C.rounds, ∀ x, (C.entry i).kind? x = env.kind? x) ∧
        m' = m.feed
          ((List.range C.rounds).flatMap C.events ++ c.stopEvents (C.entry C.rounds)) := by
  intro c body m env
  have hends : ((whileDo c body).exec 3 m env).map (fun r => (r.1.diagnostics, r.2.get? "x")) =
      some (1, some (.int 2)) := by decide +kernel
  obtain ⟨⟨m', env'⟩, h, hr⟩ := Option.map_eq_some_iff.1 hends
  obtain ⟨hcount, hx⟩ := Prod.mk.inj hr
  exact ⟨m', env', ⟨3, h⟩, hcount, hx, Runs.whileDo_course ⟨3, h⟩⟩

end Stmt

end WhileLang
