import WhileLang.Proofs.Replay
import WhileLang.Session

namespace WhileLang

namespace Log

/-- The events that came to a log after an earlier state of it. -/
def since (log earlier : Log) : List Event :=
  log.events.toList.drop earlier.events.size

theorem since_append (log : Log) (es : List Event) :
    since ⟨log.events ++ es.toArray⟩ log = es := by
  rw [since, Array.toList_append, ← Array.length_toList]
  exact List.drop_left

end Log

namespace Session

/-- The calls whose diagnostics are counted on the machine of the session. A program that is `run`
has a machine of its own. -/
def Call.counts : Call → Bool
  | .run _ => false
  | _ => true

/-- A call that was made, with the events that it left. -/
structure Entry where
  call : Call
  events : List Event

/-- The events of a call, if the session counts their diagnostics. -/
def Entry.counted (e : Entry) : List Event :=
  if e.call.counts then e.events else []

/-- Make calls one after another on one machine, each on the store that is given with it. -/
def play (bound : Nat) : Session → List (Store × Call) → Option (List Entry × Session)
  | s, [] => some ([], s)
  | s, (env, c) :: rest => do
    let (_, s') ← ({ s with store := env } : Session).call bound c
    let (entries, t) ← play bound s' rest
    return (⟨c, s'.machine.out.since s.machine.out⟩ :: entries, t)

variable {bound : Nat} {s s' t : Session} {lines : List Stmt} {reply : Reply}

theorem call_exec (bound : Nat) (s : Session) (stmt : Stmt) :
    s.call bound (.exec stmt) = (stmt.trace bound s.store).map fun r =>
      (.nothing, { s with machine := s.machine.feed r.1, store := r.2 }) := by
  rw [call, Stmt.exec_eq_trace]
  cases stmt.trace bound s.store <;> rfl

theorem call_runOn (bound : Nat) (s : Session) (lines : List Stmt) :
    s.call bound (.runOn lines) = withProgram lines s fun p =>
      (p.body.trace bound s.store).map fun r =>
        (.nothing, { s with machine := s.machine.feed r.1, store := r.2 }) := by
  rw [call]
  congr 1
  funext p
  rw [Program.runOn_eq_trace]
  cases p.body.trace bound s.store <;> rfl

theorem call_run (bound : Nat) (s : Session) (lines : List Stmt) :
    s.call bound (.run lines) = withProgram lines s fun p =>
      (p.body.trace bound s.store).map fun r =>
        (.nothing, { s with
          machine := ⟨r.1.foldl emit s.machine.out, s.machine.diagnostics⟩
          store := r.2 }) := by
  rw [call]
  congr 1
  funext p
  rw [Program.run_eq_trace]
  cases p.body.trace bound s.store <;> rfl

theorem call_run_eq (bound : Nat) (s : Session) (lines : List Stmt) :
    s.call bound (.run lines) = (s.call bound (.runOn lines)).map fun r =>
      (r.1, { r.2 with machine := ⟨r.2.machine.out, s.machine.diagnostics⟩ }) := by
  rw [call_run, call_runOn, withProgram, withProgram]
  cases Program.ofLines lines with
  | error fault => rfl
  | ok p =>
    dsimp only
    rw [Option.map_map]
    congr 1
    funext r
    rw [← Machine.out_feed]
    rfl

theorem withProgram_invariant {P : Session → Prop} {act : Program → Option (Reply × Session)}
    (h : withProgram lines s act = some (reply, t)) (hs : P s)
    (hact : ∀ p r t, act p = some (r, t) → P t) : P t := by
  rw [withProgram] at h
  split at h
  · exact hact _ _ _ h
  · cases h
    exact hs

/-- The second session is the first one after events that its machine left and counted. -/
def Feeds (s t : Session) : Prop :=
  ∃ es, t.machine = s.machine.feed es

theorem Feeds.of_machine_eq (h : t.machine = s.machine) : s.Feeds t :=
  ⟨[], h⟩

theorem Feeds.of_trace {trace : Option (List Event × Store)}
    (h : trace.map (fun r =>
      (Reply.nothing, { s with machine := s.machine.feed r.1, store := r.2 })) =
        some (reply, t)) : s.Feeds t := by
  obtain ⟨r, -, hr⟩ := Option.map_eq_some_iff.1 h
  cases hr
  exact ⟨r.1, rfl⟩

theorem call_feeds {c : Call} (hc : c.counts = true) (h : s.call bound c = some (reply, t)) :
    s.Feeds t := by
  cases c with
  | exec stmt => exact .of_trace (call_exec .. ▸ h)
  | run lines => cases hc
  | runOn lines =>
    rw [call_runOn] at h
    exact withProgram_invariant h (.of_machine_eq rfl) fun p r q hq => .of_trace hq
  | checkFlat lines =>
    apply withProgram_invariant h (.of_machine_eq rfl)
    rintro p r q ⟨⟩
    exact .of_machine_eq rfl
  | checkProgram lines =>
    apply withProgram_invariant h (.of_machine_eq rfl)
    rintro p r q ⟨⟩
    exact .of_machine_eq rfl
  | check stmt => cases h; exact .of_machine_eq rfl
  | eval e => cases h; exact .of_machine_eq rfl
  | infer e => cases h; exact .of_machine_eq rfl
  | printValue v => cases h; exact ⟨[.line v.text], rfl⟩
  | report d => cases h; exact ⟨[.diagnostic d], rfl⟩

theorem Call.eq_run_of_not_counts {c : Call} (hc : ¬ c.counts = true) :
    ∃ lines, c = .run lines := by
  cases c with
  | run lines => exact ⟨lines, rfl⟩
  | _ => exact absurd rfl hc

theorem call_leaves {c : Call} (h : s.call bound c = some (reply, t)) :
    ∃ es, t.machine.out = ⟨s.machine.out.events ++ es.toArray⟩ ∧
      t.machine.diagnostics =
        s.machine.diagnostics + ((Entry.mk c es).counted.filterMap Event.diagnostic?).length := by
  by_cases hc : c.counts = true
  · obtain ⟨es, hes⟩ := call_feeds hc h
    have hcounted : (Entry.mk c es).counted = es := if_pos hc
    refine ⟨es, ?_, ?_⟩
    · rw [hes, Machine.feed_eq]
    · rw [hes, Machine.diagnostics_feed, hcounted]
  · obtain ⟨lines, rfl⟩ := c.eq_run_of_not_counts hc
    rw [call_run_eq] at h
    obtain ⟨⟨r, q⟩, hq, ht⟩ := Option.map_eq_some_iff.1 h
    cases ht
    obtain ⟨es, hes⟩ := call_feeds rfl hq
    rw [Machine.feed_eq] at hes
    exact ⟨es, congrArg Machine.out hes, rfl⟩

theorem play_leaves {calls : List (Store × Call)} {entries : List Entry}
    (h : s.play bound calls = some (entries, t)) :
    t.machine.out.events = s.machine.out.events ++ (entries.flatMap Entry.events).toArray ∧
      t.machine.diagnostics = s.machine.diagnostics +
        ((entries.flatMap Entry.counted).filterMap Event.diagnostic?).length := by
  induction calls generalizing s entries with
  | nil =>
    cases h
    exact ⟨Array.append_empty.symm, rfl⟩
  | cons call rest ih =>
    obtain ⟨⟨reply, s'⟩, hfirst, hrest⟩ := Option.bind_eq_some_iff.1 h
    obtain ⟨⟨tail, t'⟩, htail, hr⟩ := Option.bind_eq_some_iff.1 hrest
    cases hr
    obtain ⟨es, hout, hcount⟩ := call_leaves hfirst
    obtain ⟨ihout, ihcount⟩ := ih htail
    have hsince : s'.machine.out.since s.machine.out = es := by
      rw [hout, Log.since_append]
    rw [hsince, List.flatMap_cons, List.flatMap_cons]
    constructor
    · rw [ihout, hout, ← List.append_toArray]
      exact Array.append_assoc
    · rw [ihcount, hcount, List.filterMap_append, List.length_append, Nat.add_assoc]

/-- A statement ends on no machine, or it adds the same events to every log, leaves the same store
and raises the count by the diagnostics among the events. Whatever calls follow each other, the log
only grows, and the count is raised by the diagnostics of the calls that are the session's own. A
program that is `run` does what one that is `runOn` does, but its diagnostics are not counted. -/
theorem log_grows_with_count :
    (∀ (s : Stmt) (env : Store),
      (∀ (m : Machine Log) (r : Machine Log × Store), ¬ s.Runs m env r) ∨
        ∃ (es : List Event) (env' : Store), ∀ (m : Machine Log) (r : Machine Log × Store),
          s.Runs m env r ↔ r = (⟨⟨m.out.events ++ es.toArray⟩,
            m.diagnostics + (es.filterMap Event.diagnostic?).length⟩, env')) ∧
      (∀ (bound : Nat) (s t : Session) (calls : List (Store × Call)) (entries : List Entry),
        s.play bound calls = some (entries, t) →
          t.machine.out.events = s.machine.out.events ++ (entries.flatMap Entry.events).toArray ∧
            t.machine.diagnostics = s.machine.diagnostics +
              ((entries.flatMap Entry.counted).filterMap Event.diagnostic?).length) ∧
      ∀ (bound : Nat) (s : Session) (lines : List Stmt),
        s.call bound (.run lines) = (s.call bound (.runOn lines)).map fun r =>
          (r.1, { r.2 with machine := ⟨r.2.machine.out, s.machine.diagnostics⟩ }) := by
  refine ⟨?_, fun bound s t calls entries h => play_leaves h, call_run_eq⟩
  intro s env
  by_cases hends : ∃ bound r, s.trace bound env = some r
  · obtain ⟨bound, ⟨es, env'⟩, htrace⟩ := hends
    right
    refine ⟨es, env', fun m r => ?_⟩
    have hrun : s.Runs m env (m.feed es, env') := Stmt.runs_iff_trace.2 ⟨bound, _, htrace, rfl⟩
    rw [← Machine.feed_eq]
    constructor
    · intro hr
      exact hr.unique hrun
    · rintro rfl
      exact hrun
  · left
    intro m r hr
    obtain ⟨bound, t, htrace, -⟩ := Stmt.runs_iff_trace.1 hr
    exact hends ⟨bound, t, htrace⟩

/-- Of the three diagnostics in the log one is that of a program with a machine of its own. The last
call runs on another store than the others. -/
theorem log_grows_with_count_twoMachines :
    let env := Store.empty.declare "x" (.int 1)
    let s := start env .empty .flat
    let calls : List (Store × Call) := [
      (env, .exec (.assign "x" (.bool true))),
      (env, .run [.assign "y" (.num 2), .print (.var "x")]),
      (env, .printValue .undefined),
      (.empty, .runOn [.declare "x" (.num 3), .whileDo (.var "x") (.print (.var "x"))])]
    ∃ entries t, s.play 1 calls = some (entries, t) ∧
      t.machine.out.diagnostics.length = 3 ∧
      t.machine.diagnostics =
        0 + ((entries.flatMap Entry.counted).filterMap Event.diagnostic?).length ∧
      t.machine.diagnostics = 2 := by
  intro env s calls
  have h : s.play 1 calls = some (_, _) := rfl
  exact ⟨_, _, h, rfl, (log_grows_with_count.2.1 1 s _ calls _ h).2, rfl⟩

end Session

end WhileLang
