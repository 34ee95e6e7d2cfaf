import WhileLang.Proofs.Lockstep
import WhileLang.Proofs.Mirror
import WhileLang.Proofs.Run

namespace WhileLang

variable {σ : Type}

/-- A run with lexical scoping and a run on a store end alike: the same events were left, the store
reads like the frames, and the frames around the innermost one still bind the same kinds. -/
structure Simulates (F : Scopes) (r : Machine σ × Scopes) (q : Machine σ × Store) : Prop where
  machine : r.1 = q.1
  mirrors : r.2.Mirrors q.2
  below : shape r.2.below = shape F.below

/-- The two runs are alike and all frames bind the kinds that they bound, as after a scope was
closed. -/
structure Tracks (F : Scopes) (r : Machine σ × Scopes) (q : Machine σ × Store) : Prop where
  machine : r.1 = q.1
  mirrors : r.2.Mirrors q.2
  frames : shape r.2.frames = shape F.frames

section Tracking

variable {F : Scopes} {m : Machine σ} {env : Store} {r : Machine σ × Scopes}
  {q : Machine σ × Store}

theorem Tracks.simulates (h : Tracks F r q) : Simulates F r q :=
  ⟨h.machine, h.mirrors, (List.cons.inj h.frames).2⟩

theorem Tracks.kind? (hm : F.Mirrors env) (h : Tracks F r q) (x : String) :
    q.2.kind? x = env.kind? x := by
  rw [h.mirrors.kind? x, kind_lookup h.frames, hm.kind? x]

variable [Sink σ]

theorem inScope_tracks {k : Nat} {body : Stmt} {outer : Store} (hm : F.Mirrors env)
    (hk : ∀ x, env.kind? x = outer.kind? x)
    (h : Option.Rel (Simulates F.push) (body.execIn k m F.push) (body.exec k m env)) :
    Option.Rel
      (fun r q => Tracks F r q ∧ ∃ G, r.2 = G.pop ∧ body.RunsIn m F.push (r.1, G))
      (inScope (body.execIn k) m F)
      ((body.exec k m env).map fun q => (q.1, outer.merge q.2)) := by
  apply optionRel_map h
  intro r q hr hrq
  have hbelow : shape r.2.below = shape F.frames := hrq.below
  have hne : r.2.below ≠ [] := by
    intro he
    rw [he] at hbelow
    cases hbelow
  have hkinds (x : String) : outer.kind? x = (lookup x r.2.below).map Value.kind := by
    rw [← hk x, hm.kind? x, kind_lookup hbelow]
  have hframes : shape r.2.pop.frames = shape F.frames := by
    rw [Scopes.frames_pop hne, hbelow]
  constructor
  · exact ⟨hrq.machine, hrq.mirrors.pop hne hkinds, hframes⟩
  · exact ⟨r.2, rfl, k, hr⟩

end Tracking

namespace Stmt

variable [Sink σ] {k : Nat} {m : Machine σ} {F : Scopes} {env : Store}

/-- Both runs of the statement are alike wherever it does not shadow. -/
def Refines (σ : Type) [Sink σ] (k : Nat) (s : Stmt) : Prop :=
  ∀ (m : Machine σ) (F : Scopes) (env : Store), F.Mirrors env → s.NeverShadows m F →
    Option.Rel (Simulates F) (s.execIn k m F) (s.exec k m env)

section Bodies

variable {c : Expr} {s t : Stmt}

theorem roundIn_tracks (hm : F.Mirrors env) (hbody : s.Refines σ k) {r : Machine σ × Scopes}
    {q : Machine σ × Store} (h : Tracks F r q) (hs : (whileDo c s).NeverShadows r.1 r.2) :
    Option.Rel
      (Round.Rel (fun r q => Tracks F r q ∧ (whileDo c s).NeverShadows r.1 r.2) (Tracks F))
      (roundIn c (s.execIn k) r) (loopRound c (s.exec k) env q) := by
  have hk := h.kind? hm
  obtain ⟨m₁, F₁⟩ := r
  obtain ⟨_, inner⟩ := q
  obtain ⟨rfl, hm₁, hframes⟩ := h
  have heval : c.evalIn F₁ = c.eval inner := hm₁.eval c
  rw [roundIn, heval]
  cases hc : c.eval inner with
  | int n =>
    rw [loopRound, hc]
    exact .some (.done ⟨rfl, hm₁, hframes⟩)
  | undefined =>
    rw [loopRound, hc]
    exact .some (.done ⟨rfl, hm₁, hframes⟩)
  | bool b =>
    cases b with
    | false =>
      rw [loopRound_of_false hc]
      exact .some (.done ⟨rfl, hm₁, hframes⟩)
    | true =>
      have hc' := heval.trans hc
      have hsbody : s.NeverShadows m₁ F₁.push := fun x G h => hs x G (.body hc' h)
      rw [loopRound_of_true hc]
      apply optionRel_map (inScope_tracks hm₁ hk (hbody _ _ _ hm₁.push hsbody))
      intro r₂ q₂ _ h₂
      obtain ⟨htracks, G, hG, hrun⟩ := h₂
      have hsnext : (whileDo c s).NeverShadows r₂.1 r₂.2 := by
        intro x H hx
        rw [hG] at hx
        exact hs x H (.round hc' hrun hx)
      exact .again ⟨⟨htracks.machine, htracks.mirrors, htracks.frames.trans hframes⟩, hsnext⟩

theorem Refines.whileDo (hbody : s.Refines σ k) : (whileDo c s).Refines σ k := by
  intro m F env hm hs
  rw [execIn, exec_whileDo]
  have hloop := iterate_rel (fun _ _ h => roundIn_tracks hm hbody h.1 h.2) k
    (a := (m, F)) (b := (m, env)) ⟨⟨rfl, hm, rfl⟩, hs⟩
  apply optionRel_map_right hloop
  intro r q h
  have hk := h.kind? hm
  rw [Store.merge_eq_of_kind? hk]
  exact h.simulates

theorem Refines.ifElse (hyes : s.Refines σ k) (hno : t.Refines σ k) :
    (ifElse c s t).Refines σ k := by
  intro m F env hm hs
  have hself : F.Mirrors (env.merge env) := by
    rw [env.merge_self]
    exact hm
  rw [execIn, exec_ifElse, branchIn, hm.eval c, branch]
  cases hc : c.eval env with
  | int n => exact .some ⟨rfl, hself, rfl⟩
  | undefined => exact .some ⟨rfl, hself, rfl⟩
  | bool b =>
    have hc' := (hm.eval c).trans hc
    cases b with
    | true =>
      have hsyes : s.NeverShadows m F.push := fun x G h => hs x G (.yes hc' h)
      apply optionRel_mono (inScope_tracks hm (fun _ => rfl) (hyes _ _ _ hm.push hsyes))
      intro r q h
      exact h.1.simulates
    | false =>
      have hsno : t.NeverShadows m F.push := fun x G h => hs x G (.no hc' h)
      apply optionRel_mono (inScope_tracks hm (fun _ => rfl) (hno _ _ _ hm.push hsno))
      intro r q h
      exact h.1.simulates

theorem Refines.seq (hleft : s.Refines σ k) (hright : t.Refines σ k) : (seq s t).Refines σ k := by
  intro m F env hm hs
  have hsleft : s.NeverShadows m F := fun x G h => hs x G (.seqLeft h)
  rw [execIn, exec_seq]
  apply optionRel_bind (hleft _ _ _ hm hsleft)
  intro r q hrun hrq
  obtain ⟨m₁, F₁⟩ := r
  obtain ⟨_, env₁⟩ := q
  obtain ⟨rfl, hm₁, hbelow⟩ := hrq
  have hsright : t.NeverShadows m₁ F₁ := fun x G h => hs x G (.seqRight ⟨k, hrun⟩ h)
  apply optionRel_mono (hright _ _ _ hm₁ hsright)
  intro r' q' h
  exact ⟨h.machine, h.mirrors, h.below.trans hbelow⟩

end Bodies

theorem execIn_refines (k : Nat) (s : Stmt) : s.Refines σ k := by
  induction s with
  | seq s t ihs iht => exact ihs.seq iht
  | declare x e =>
    intro m F env hm hs
    rw [execIn, exec, hm.eval e]
    exact .some ⟨rfl, hm.declare (hs x F .declare) _, rfl⟩
  | assign x e =>
    intro m F env hm hs
    rw [execIn, exec, hm.eval e]
    rcases hm.assign x (e.eval env) with ⟨hF, henv, hm', hbelow⟩ | ⟨fault, hF, henv⟩
    · rw [hF, henv]
      exact .some ⟨rfl, hm', hbelow⟩
    · rw [hF, henv]
      exact .some ⟨rfl, hm, rfl⟩
  | whileDo c body ih => exact ih.whileDo
  | ifElse c s t ihs iht => exact ihs.ifElse iht
  | print e =>
    intro m F env hm hs
    rw [execIn, exec, hm.eval e]
    exact .some ⟨rfl, hm, rfl⟩
  | block s ih =>
    intro m F env hm hs
    exact ih m F env hm fun x G h => hs x G (.block h)

/-- Copying the store into a nested scope and merging it back refines lexical scoping. When no
declaration in a nested scope shadows a variable, the run on a store ends exactly when the run with
a stack of frames does. It leaves the same events, and the store is the one frame that remains. -/
theorem runs_iff_runsIn {s : Stmt} {m : Machine σ} {env : Store}
    (hs : s.NeverShadows m ⟨env, []⟩) :
    (∀ m' env', s.Runs m env (m', env') ↔ s.RunsIn m ⟨env, []⟩ (m', ⟨env', []⟩)) ∧
      ∀ m' F', s.RunsIn m ⟨env, []⟩ (m', F') → F'.below = [] := by
  have hsim (k : Nat) := execIn_refines k s m _ env (Scopes.Mirrors.single env) hs
  constructor
  · intro m' env'
    constructor
    · intro h
      obtain ⟨k, hk⟩ := h
      obtain ⟨⟨m₁, F₁⟩, hr, hrel⟩ := optionRel_right (hk ▸ hsim k)
      obtain ⟨rfl, hm, hb⟩ := hrel
      have hb' := List.map_eq_nil_iff.1 hb
      obtain ⟨top, below⟩ := F₁
      cases hb'
      cases hm.eq_top rfl
      exact ⟨k, hr⟩
    · intro h
      obtain ⟨k, hk⟩ := h
      obtain ⟨⟨m₁, env₁⟩, hq, hrel⟩ := optionRel_left (hk ▸ hsim k)
      obtain ⟨rfl, hm, -⟩ := hrel
      cases hm.eq_top rfl
      exact ⟨k, hq⟩
  · intro m' F' h
    obtain ⟨k, hk⟩ := h
    obtain ⟨q, -, hrel⟩ := optionRel_left (hk ▸ hsim k)
    exact List.map_eq_nil_iff.1 hrel.below

/-- A loop of one round that declares a name of its own and assigns two outer ones. -/
def runOnce : Stmt :=
  .whileDo (.var "b") (chain (.declare "y" (.num 7)) [
    .assign "x" (.var "y"),
    .assign "b" (.bool false)])

theorem runs_iff_runsIn_runOnce :
    let env := (Store.empty.declare "b" (.bool true)).declare "x" (.int 0)
    let m := Machine.start Log.empty
    runOnce.NeverShadows m ⟨env, []⟩ ∧
      (∃ r, runOnce.Runs m env r) ∧
      ∀ m' env', runOnce.Runs m env (m', env') ↔ runOnce.RunsIn m ⟨env, []⟩ (m', ⟨env', []⟩) := by
  intro env m
  have hs : runOnce.NeverShadows m ⟨env, []⟩ := by
    intro x G h
    cases h with
    | body hc h =>
      cases h with
      | seqLeft h =>
        cases h
        intro f hf
        rw [List.mem_singleton.1 hf]
        rfl
      | seqRight hs h =>
        cases h with
        | seqLeft h => cases h
        | seqRight hs h => cases h
    | round hc hs h =>
      obtain ⟨k, hk⟩ := hs
      cases hk
      cases h with
      | body hc h => cases hc
      | round hc hs h => cases hc
  exact ⟨hs, ⟨_, 2, rfl⟩, (runs_iff_runsIn hs).1⟩

end Stmt

end WhileLang
