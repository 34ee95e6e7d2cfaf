import WhileLang.Proofs.Faults
import WhileLang.Proofs.Influence

namespace WhileLang

theorem toInt_add_one_of_lt {a b : Int64} (h : a < b) : (a + 1).toInt = a.toInt + 1 := by
  have hlt := Int64.lt_iff_toInt_lt.1 h
  have hlow := a.le_toInt
  have hhigh := b.toInt_lt
  rw [Int64.toInt_add, Int64.toInt_one]
  exact Int.bmod_eq_of_le (by omega) (by omega)

/-- The variable `i` is less than the number `n`. -/
def Expr.isBelow (i : String) (n : Int64) : Expr :=
  .binary .lt (.var i) (.num n)

theorem Expr.eval_isBelow {env : Store} {i : String} {a : Int64} (n : Int64)
    (h : env.get? i = some (.int a)) : (isBelow i n).eval env = .bool (a < n) := by
  rw [isBelow, eval_binary, eval_var, eval_num, Store.value, h]
  rfl

namespace Stmt

/-- No loop, also not in a branch. -/
def LoopFree : Stmt → Prop
  | seq s t => s.LoopFree ∧ t.LoopFree
  | declare _ _ => True
  | assign _ _ => True
  | whileDo _ _ => False
  | ifElse _ s t => s.LoopFree ∧ t.LoopFree
  | print _ => True
  | block s => s.LoopFree

/-- Add one to the variable `i` after the statement. -/
def thenCount (s : Stmt) (i : String) : Stmt :=
  seq s (assign i (.binary .add (.var i) (.num 1)))

variable {σ : Type} [Sink σ] {s : Stmt} {i : String} {env : Store}

theorem LoopFree.exists_exec (h : s.LoopFree) (k : Nat) (m : Machine σ) (env : Store) :
    ∃ r, s.exec k m env = some r := by
  induction s generalizing m env with
  | seq s t ihs iht =>
    obtain ⟨q, hq⟩ := ihs h.1 m env
    obtain ⟨r, hr⟩ := iht h.2 q.1 q.2
    exact ⟨r, by rw [exec_seq, hq]; exact hr⟩
  | declare x e => exact ⟨_, rfl⟩
  | assign x e =>
    rw [exec]
    split
    · exact ⟨_, rfl⟩
    · exact ⟨_, rfl⟩
  | whileDo c body => exact h.elim
  | ifElse c s t ihs iht =>
    obtain ⟨q, hq⟩ := ihs h.1 m env
    obtain ⟨r, hr⟩ := iht h.2 m env
    rw [exec_ifElse]
    rcases (c.eval env).truth_cases with hc | hc | hc
    · rw [branch, hc, hq]
      exact ⟨_, rfl⟩
    · rw [branch, hc, hr]
      exact ⟨_, rfl⟩
    · rw [branch_of_kind hc]
      exact ⟨_, rfl⟩
  | print e => exact ⟨_, rfl⟩
  | block s ih => exact ih h m env

theorem LoopFree.exists_leaves (h : s.LoopFree) (env : Store) :
    ∃ es env', s.Leaves env es env' := by
  obtain ⟨r, hr⟩ := h.exists_exec 0 (.start Log.empty) env
  obtain ⟨es, env', hleaves, -⟩ := runs_iff_leaves.1 ⟨0, hr⟩
  exact ⟨es, env', hleaves⟩

theorem leaves_thenCount {es : List Event} {inner : Store} {a : Int64} (h : s.Leaves env es inner)
    (hi : i ∉ s.targets) (ha : env.get? i = some (.int a)) :
    (s.thenCount i).Leaves env es (inner.declare i (.int (a + 1))) := by
  have hget : inner.get? i = some (.int a) := (get?_of_not_mem_targets h hi).trans ha
  have hval : (Expr.binary .add (.var i) (.num 1)).eval inner = .int (a + 1) := by
    rw [Expr.eval_binary, Expr.eval_var, Store.value, hget]
    rfl
  have hok : inner.assign i (.int (a + 1)) = .ok (inner.declare i (.int (a + 1))) :=
    Store.assign_of_kind_eq ((Store.kind?_of_get? hget).trans rfl)
  have hstep : (assign i (.binary .add (.var i) (.num 1))).Leaves inner []
      (inner.declare i (.int (a + 1))) :=
    leaves_of_runs fun m => (runs_assign_of_ok (hval ▸ hok)).2 rfl
  exact List.append_nil es ▸ h.seq hstep

end Stmt

theorem Store.get?_merge_declare_int {outer : Store} {i : String} (h : outer.kind? i = some .int)
    (inner : Store) (b : Int64) :
    (outer.merge (inner.declare i (.int b))).get? i = some (.int b) := by
  rw [get?_merge_of_kind?, get?_declare, if_pos rfl]
  rw [kind?_declare, if_pos rfl, h]
  rfl

namespace Course

variable {i : String} {n a : Int64} {body : Stmt} {outer start env : Store}

/-- A counter that starts at a number comes to its bound: the induction is on how far it is from
there. -/
theorem exists_of_counter (hfree : body.LoopFree) (hi : i ∉ body.targets)
    (hk : outer.kind? i = some .int) (ha : start.get? i = some (.int a)) :
    Nonempty (Course (.isBelow i n) (body.thenCount i) outer start) := by
  generalize hd : (n.toInt - a.toInt).toNat = d
  induction d generalizing start a with
  | zero =>
    have hge : ¬ a < n := by
      rw [Int64.lt_iff_toInt_lt]
      omega
    refine ⟨.halt ?_⟩
    rw [Expr.eval_isBelow n ha, decide_eq_false hge]
    exact nofun
  | succ d ih =>
    have hlt : a < n := by
      rw [Int64.lt_iff_toInt_lt]
      omega
    have hc : (Expr.isBelow i n).eval start = .bool true := by
      rw [Expr.eval_isBelow n ha, decide_eq_true hlt]
    obtain ⟨es, inner, hleaves⟩ := hfree.exists_leaves start
    have hnext := Store.get?_merge_declare_int hk inner (a + 1)
    have hsucc := toInt_add_one_of_lt hlt
    obtain ⟨C⟩ := ih hnext (by omega)
    exact ⟨.cons hc (Stmt.leaves_thenCount hleaves hi ha) C⟩

section Counter

variable (C : Course (.isBelow i n) (body.thenCount i) env env)

theorem lt_of_holds {k : Nat} {b : Int64} (hk : k < C.rounds)
    (hb : (C.entry k).get? i = some (.int b)) : b < n := by
  have hc := C.holds k hk
  rw [Expr.eval_isBelow n hb] at hc
  exact of_decide_eq_true (Value.bool.inj hc)

theorem not_lt_of_stops {b : Int64} (hb : (C.entry C.rounds).get? i = some (.int b)) : ¬ b < n := by
  intro hlt
  apply C.stops
  rw [Expr.eval_isBelow n hb, decide_eq_true hlt]

theorem leaves_of_counter (hfree : body.LoopFree) (hi : i ∉ body.targets) {k : Nat} {b : Int64}
    (hk : k < C.rounds) (hb : (C.entry k).get? i = some (.int b)) :
    ∃ inner, body.Leaves (C.entry k) (C.events k) inner ∧
      C.exit k = inner.declare i (.int (b + 1)) := by
  obtain ⟨es, inner, hleaves⟩ := hfree.exists_leaves (C.entry k)
  obtain ⟨rfl, hexit⟩ := (C.leaves k hk).unique (Stmt.leaves_thenCount hleaves hi hb)
  exact ⟨inner, hleaves, hexit⟩

variable (hfree : body.LoopFree) (hi : i ∉ body.targets) (ha : env.get? i = some (.int a))

include hfree hi ha

theorem get?_counter {k : Nat} (hk : k ≤ C.rounds) :
    ∃ b, (C.entry k).get? i = some (.int b) ∧ b.toInt = a.toInt + k := by
  apply C.entry_invariant (P := fun k s => ∃ b, s.get? i = some (.int b) ∧ b.toInt = a.toInt + k)
    ⟨a, ha, by simp⟩ _ hk
  rintro k hk ⟨b, hb, hbk⟩
  obtain ⟨inner, -, hexit⟩ := C.leaves_of_counter hfree hi hk hb
  have hsucc := toInt_add_one_of_lt (C.lt_of_holds hk hb)
  refine ⟨b + 1, ?_, by omega⟩
  rw [hexit]
  exact Store.get?_merge_declare_int (Store.kind?_of_get? ha) _ _

theorem log_counter : C.log = (List.range C.rounds).flatMap C.events := by
  obtain ⟨b, hb, -⟩ := C.get?_counter hfree hi ha (Nat.le_refl _)
  have hfalse : (Expr.isBelow i n).eval C.last = .bool false := by
    rw [last, Expr.eval_isBelow n hb, decide_eq_false (C.not_lt_of_stops hb)]
  rw [log, Expr.stopEvents, if_pos hfalse, List.append_nil]

theorem rounds_counter : (C.rounds : Int) = max 0 (n.toInt - a.toInt) := by
  obtain ⟨b, hb, hbk⟩ := C.get?_counter hfree hi ha (Nat.le_refl _)
  have hstop := C.not_lt_of_stops hb
  rw [Int64.lt_iff_toInt_lt] at hstop
  cases hr : C.rounds with
  | zero => omega
  | succ k =>
    have hk : k < C.rounds := by omega
    obtain ⟨d, hd, hdk⟩ := C.get?_counter hfree hi ha (Nat.le_of_lt hk)
    have hlt := Int64.lt_iff_toInt_lt.1 (C.lt_of_holds hk hd)
    omega

theorem get?_last_counter : (C.entry C.rounds).get? i = some (.int (max a n)) := by
  obtain ⟨b, hb, hbk⟩ := C.get?_counter hfree hi ha (Nat.le_refl _)
  have hrounds := C.rounds_counter hfree hi ha
  have hmax : b = max a n := by
    apply Int64.toInt_inj.1
    by_cases hle : a ≤ n
    · rw [show max a n = n from if_pos hle]
      rw [Int64.le_iff_toInt_le] at hle
      omega
    · rw [show max a n = a from if_neg hle]
      rw [Int64.le_iff_toInt_le] at hle
      omega
  rw [hb, hmax]

end Counter

end Course

namespace Stmt

variable {σ : Type} [Sink σ]

/-- A loop that counts up to a number ends, whatever else its body does, if that has no loop and
does not write the counter. It goes as many rounds as the counter is below the number, or none, and
the counter never wraps around. All events are those of the body in these rounds. -/
theorem countUp_ends {i : String} {n a : Int64} {body : Stmt} {env : Store}
    (hfree : body.LoopFree) (hi : i ∉ body.targets) (ha : env.get? i = some (.int a))
    (m : Machine σ) :
    ∃ C : Course (.isBelow i n) (body.thenCount i) env env,
      (∀ r, (whileDo (.isBelow i n) (body.thenCount i)).Runs m env r ↔
        r = (m.feed ((List.range C.rounds).flatMap C.events), C.entry C.rounds)) ∧
      (∀ k < C.rounds, ∃ inner, body.Leaves (C.entry k) (C.events k) inner) ∧
      (C.rounds : Int) = max 0 (n.toInt - a.toInt) ∧
      (∀ k ≤ C.rounds, ∃ b, (C.entry k).get? i = some (.int b) ∧ b.toInt = a.toInt + k) ∧
      (C.entry C.rounds).get? i = some (.int (max a n)) := by
  obtain ⟨C⟩ := Course.exists_of_counter (n := n) hfree hi (Store.kind?_of_get? ha) ha
  have hruns : (whileDo (.isBelow i n) (body.thenCount i)).Runs m env (m.feed C.log, C.last) :=
    runs_whileDo_iff.2 ⟨C, rfl⟩
  rw [C.log_counter hfree hi ha] at hruns
  refine ⟨C, fun r => hruns.iff_eq, ?_, C.rounds_counter hfree hi ha,
    fun k => C.get?_counter hfree hi ha, C.get?_last_counter hfree hi ha⟩
  intro k hk
  obtain ⟨b, hb, -⟩ := C.get?_counter hfree hi ha (Nat.le_of_lt hk)
  obtain ⟨inner, hleaves, -⟩ := C.leaves_of_counter hfree hi hk hb
  exact ⟨inner, hleaves⟩

/-- Print the counter, assign an unknown variable, clear a flag or hide it behind a number, and hide
`j` behind a truth value. -/
def clutter : Stmt :=
  chain (.print (.var "i")) [
    .assign "u" (.bool true),
    .ifElse (.var "flag") (.assign "flag" (.bool false)) (.declare "flag" (.num 0)),
    .declare "j" (.bool true)]

theorem countUp_ends_clutter :
    let n := Int64.maxValue
    let loop := whileDo (.isBelow "i" n) (clutter.thenCount "i")
    let m := Machine.start Log.empty
    let env := ((Store.empty.declare "i" (.int 9223372036854775805)).declare "flag"
      (.bool true)).declare "j" (.int 3)
    clutter.LoopFree ∧ "i" ∉ clutter.targets ∧
      env.get? "i" = some (.int 9223372036854775805) ∧
      ∃ C : Course (.isBelow "i" n) (clutter.thenCount "i") env env,
        loop.Runs m env (m.feed ((List.range C.rounds).flatMap C.events), C.entry C.rounds) ∧
        C.rounds = 2 ∧ (C.entry C.rounds).get? "i" = some (.int n) := by
  intro n loop m env
  have hfree : clutter.LoopFree := ⟨trivial, trivial, ⟨trivial, trivial⟩, trivial⟩
  have hi : "i" ∉ clutter.targets := by decide
  have ha : env.get? "i" = some (.int 9223372036854775805) := by decide +kernel
  obtain ⟨C, hruns, -, hrounds, -, hlast⟩ := countUp_ends (n := n) hfree hi ha m
  have htwo : max (0 : Int) (n.toInt - Int64.toInt 9223372036854775805) = 2 := by decide
  have hmax : max 9223372036854775805 n = n := by decide
  rw [htwo] at hrounds
  rw [hmax] at hlast
  exact ⟨hfree, hi, ha, C, (hruns _).2 rfl, by omega, hlast⟩

end Stmt

end WhileLang
