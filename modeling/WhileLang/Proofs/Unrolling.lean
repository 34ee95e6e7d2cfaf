import WhileLang.Proofs.Courses
import WhileLang.Proofs.Frame

namespace WhileLang

theorem Store.merge_merge {outer a b : Store}
    (h : ∀ x, outer.contains x → a.kind? x = outer.kind? x → b.kind? x = outer.kind? x) :
    (outer.merge a).merge b = outer.merge b := by
  apply ext_get?
  intro x
  by_cases hb : b.kind? x = outer.kind? x
  · rw [get?_merge_of_kind? hb, get?_merge_of_kind? (hb.trans (outer.kind?_merge a x).symm)]
  · rw [get?_merge_of_kind?_ne hb, get?_merge_of_kind?_ne ((outer.kind?_merge a x).symm ▸ hb)]
    by_cases hx : outer.contains x
    · exact get?_merge_of_kind?_ne fun ha => hb (h x hx ha)
    · have hnone : outer.get? x = none := by
        rw [contains, Option.isSome_iff_ne_none, not_not] at hx
        exact hx
      rw [get?_merge, hnone, Option.map_none]

variable {σ : Type} [Sink σ]

namespace Course

variable {c : Expr} {body : Stmt} {outer start : Store} {C : Course c body outer start}

/-- Every variable of the outer store comes out of the body with its outer kind in all rounds, or in
none. -/
def Uniform (C : Course c body outer start) : Prop :=
  ∀ x, outer.contains x →
    (∀ i < C.rounds, (C.exit i).kind? x = outer.kind? x) ∨
      ∀ i < C.rounds, (C.exit i).kind? x ≠ outer.kind? x

theorem Uniform.merge_exit (h : C.Uniform) {i j : Nat} (hi : i < C.rounds) (hj : j < C.rounds) :
    (outer.merge (C.exit i)).merge (C.exit j) = outer.merge (C.exit j) := by
  apply Store.merge_merge
  intro x hx hk
  rcases h x hx with hall | hnone
  · exact hall j hj
  · exact absurd hk (hnone i hi)

theorem exists_rounds (C : Course c body outer start) (hc : c.eval start = .bool true) :
    ∃ n, C.rounds = n + 1 :=
  Nat.exists_eq_add_one.2 (C.rounds_pos_iff.2 hc)

end Course

namespace Stmt

variable {c : Expr} {body s : Stmt} {env env' : Store} {m : Machine σ} {r : Machine σ × Store}
  {es : List Event}

theorem frame_of_leaves (h : s.Leaves env es env') :
    Frame s.declaredOutside s.declared s.assigned env env' := by
  obtain ⟨k, hk⟩ := h.runs (.start Log.empty)
  exact exec_frame hk

/-- The first round of a loop can be run on its own, as in a branch, and the loop be entered again
with what it settled on: it ends alike, if the kinds that the body leaves are uniform. -/
theorem Runs.whileDo_unroll (h : (whileDo c body).Runs m env r) (hc : c.eval env = .bool true)
    (hu : ∀ C : Course c body env env, C.Uniform) :
    ∃ m₁ inner, body.Runs m env (m₁, inner) ∧
      (whileDo c body).Runs m₁ (env.absorb (env.merge inner)) r := by
  obtain ⟨C, rfl⟩ := runs_whileDo_iff.1 h
  obtain ⟨n, hn⟩ := C.exists_rounds hc
  have hfirst := (C.entry_zero ▸ C.leaves 0 (by omega)).runs m
  -- the other rounds are those of the loop that is entered with what the first one settled on
  have hsettled : ∀ i < n, (env.merge (C.exit 0)).merge (C.exit (i + 1)) =
      env.merge (C.exit (i + 1)) :=
    fun i hi => (hu C).merge_exit (by omega) (by omega)
  refine ⟨_, _, hfirst, runs_whileDo_iff.2 ?_⟩
  have habsorb : env.absorb (env.merge (C.exit 0)) = env.merge (C.exit 0) :=
    Store.reconcile_eq_merge env (C.exit 0)
  rw [habsorb]
  refine ⟨C.tail hn _ hsettled, ?_⟩
  rw [Course.last_tail, ← Machine.feed_append, ← Course.log_tail]

/-- Print `i`, add one to it, and hide `j` behind a truth value. -/
def countAndHide : Stmt :=
  chain (.print (.var "i")) [
    .assign "i" (.binary .add (.var "i") (.num 1)),
    .declare "j" (.bool true)]

theorem uniform_countAndHide {outer start : Store} (hj : outer.kind? "j" = some .int)
    (hk : ∀ x, start.kind? x = outer.kind? x) (C : Course c countAndHide outer start) :
    C.Uniform := by
  intro x _
  by_cases hx : x = "j"
  · right
    intro i hi
    obtain ⟨k, hexec⟩ := (C.leaves i hi).runs (.start Log.empty)
    obtain ⟨_, _, -, hrest⟩ := exec_seq_cases hexec
    obtain ⟨_, env₂, -, hlast⟩ := exec_seq_cases hrest
    obtain ⟨-, hexit⟩ := Prod.mk.inj (Option.some.inj hlast)
    rw [← hexit, Store.kind?_declare, if_pos hx.symm, hx, hj]
    exact nofun
  · left
    intro i hi
    have hout : x ∉ countAndHide.declaredOutside := by simpa [countAndHide, chain, declaredOutside]
    rw [(frame_of_leaves (C.leaves i hi)).kind x hout, C.kind?_entry hk (Nat.le_of_lt hi)]

theorem Runs.whileDo_unroll_countAndHide :
    let c := Expr.binary .lt (.var "i") (.var "j")
    let m := Machine.start Log.empty
    let env := (Store.empty.declare "i" (.int 0)).declare "j" (.int 3)
    ∃ r, (whileDo c countAndHide).Runs m env r ∧
      r.1.out.lines = ["0", "1", "2"] ∧ r.2.get? "i" = some (.int 3) ∧
      c.eval env = .bool true ∧
      (∀ C : Course c countAndHide env env, C.Uniform) ∧
      ∃ m₁ inner, countAndHide.Runs m env (m₁, inner) ∧
        (whileDo c countAndHide).Runs m₁ (env.absorb (env.merge inner)) r := by
  intro c m env
  have hends : ((whileDo c countAndHide).exec 4 m env).map
      (fun r => (r.1.out.lines, r.2.get? "i")) = some (["0", "1", "2"], some (.int 3)) := by
    decide +kernel
  obtain ⟨r, h, hr⟩ := Option.map_eq_some_iff.1 hends
  obtain ⟨hlines, hi⟩ := Prod.mk.inj hr
  have hc : c.eval env = .bool true := by decide +kernel
  have hu : ∀ C : Course c countAndHide env env, C.Uniform :=
    uniform_countAndHide (by decide +kernel) fun _ => rfl
  exact ⟨r, ⟨4, h⟩, hlines, hi, hc, hu, Runs.whileDo_unroll ⟨4, h⟩ hc hu⟩

end Stmt

end WhileLang
