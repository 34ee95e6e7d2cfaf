import WhileLang.Proofs.Scopes

namespace WhileLang

/-- The kinds that frames bind, frame by frame. Closed scopes apart, only declarations change it. -/
def shape (fs : List Store) : List (String → Option Kind) :=
  fs.map Store.kind?

theorem kind_lookup {fs gs : List Store} (h : shape fs = shape gs) (x : String) :
    (lookup x fs).map Value.kind = (lookup x gs).map Value.kind := by
  induction fs generalizing gs with
  | nil => rw [List.map_eq_nil_iff.1 h.symm]
  | cons f fs ih =>
    obtain ⟨g, gs, rfl, hfg, hs⟩ := List.map_eq_cons_iff.1 h.symm
    have hk : (f.get? x).map Value.kind = (g.get? x).map Value.kind := congrFun hfg.symm x
    rw [lookup, lookup, Option.map_or, Option.map_or, hk, ih hs.symm]

theorem exists_of_lookup {x : String} {v : Value} {fs : List Store} (h : lookup x fs = some v) :
    ∃ f ∈ fs, f.get? x = some v := by
  induction fs with
  | nil => cases h
  | cons f fs ih =>
    rcases Option.or_eq_some_iff.1 h with hf | ⟨-, hfs⟩
    · exact ⟨f, List.mem_cons_self, hf⟩
    · obtain ⟨g, hg, hgx⟩ := ih hfs
      exact ⟨g, List.mem_cons_of_mem _ hg, hgx⟩

section Rebinding

variable {x : String} {v w : Value} {f : Store} {fs : List Store}

theorem rebindFirst_of_none (hf : f.get? x = none) :
    rebindFirst x v (f :: fs) = f :: rebindFirst x v fs :=
  if_neg (by rw [Store.contains, hf]; exact Bool.false_ne_true)

theorem rebindFirst_of_some (hf : f.get? x = some w) :
    rebindFirst x v (f :: fs) = f.declare x v :: fs :=
  if_pos (by rw [Store.contains, hf]; rfl)

theorem lookup_rebindFirst (hx : lookup x fs = some w) (y : String) :
    lookup y (rebindFirst x v fs) = if x = y then some v else lookup y fs := by
  induction fs with
  | nil => cases hx
  | cons f fs ih =>
    rcases Option.or_eq_some_iff.1 hx with hf | ⟨hf, hfs⟩
    · rw [rebindFirst_of_some hf, lookup, Store.get?_declare]
      by_cases he : x = y
      · rw [if_pos he, if_pos he, Option.some_or]
      · rw [if_neg he, if_neg he, lookup]
    · rw [rebindFirst_of_none hf, lookup, ih hfs]
      by_cases he : x = y
      · rw [if_pos he, if_pos he, ← he, hf, Option.none_or]
      · rw [if_neg he, if_neg he, lookup]

theorem shape_rebindFirst (hx : lookup x fs = some w) (hk : w.kind = v.kind) :
    shape (rebindFirst x v fs) = shape fs := by
  induction fs with
  | nil => cases hx
  | cons f fs ih =>
    rcases Option.or_eq_some_iff.1 hx with hf | ⟨hf, hfs⟩
    · rw [rebindFirst_of_some hf]
      apply congrArg (· :: shape fs)
      funext y
      rw [Store.kind?_declare]
      by_cases he : x = y
      · rw [if_pos he, ← he, Store.kind?_of_get? hf, hk]
      · rw [if_neg he]
    · rw [rebindFirst_of_none hf]
      exact congrArg (f.kind? :: ·) (ih hfs)

end Rebinding

namespace Scopes

theorem get?_eq (F : Scopes) (x : String) : F.get? x = (F.top.get? x).or (lookup x F.below) := rfl

theorem frames_rebind (F : Scopes) (x : String) (v : Value) :
    (F.rebind x v).frames = rebindFirst x v F.frames := by
  rw [rebind, frames, frames, rebindFirst]
  split <;> rfl

theorem frames_pop {F : Scopes} (h : F.below ≠ []) : F.pop.frames = F.below := by
  obtain ⟨top, below⟩ := F
  cases below with
  | nil => exact absurd rfl h
  | cons f fs => rfl

/-- No name is bound in two of the frames. -/
def Apart (fs : List Store) : Prop :=
  (shape fs).Pairwise fun f g => ∀ x, f x = none ∨ g x = none

/-- One store that reads like all the frames together, of which no two bind the same name. -/
structure Mirrors (F : Scopes) (env : Store) : Prop where
  get? : ∀ x, env.get? x = F.get? x
  apart : Apart F.frames

namespace Mirrors

variable {F : Scopes} {env : Store}

theorem eval (h : F.Mirrors env) (e : Expr) : e.evalIn F = e.eval env := by
  have hv : F.value = env.value := funext fun x => by rw [value, Store.value, h.get? x]
  rw [Expr.evalIn, hv, Expr.eval]

theorem kind? (h : F.Mirrors env) (x : String) :
    env.kind? x = (lookup x F.frames).map Value.kind :=
  congrArg (Option.map Value.kind) (h.get? x)

theorem single (env : Store) : Mirrors ⟨env, []⟩ env where
  get? _ := (Option.or_none ..).symm
  apart := List.pairwise_singleton _ _

theorem eq_top (h : F.Mirrors env) (hF : F.below = []) : env = F.top := by
  obtain ⟨top, below⟩ := F
  cases hF
  exact Store.ext_get? fun x => (h.get? x).trans ((single top).get? x).symm

theorem push (h : F.Mirrors env) : F.push.Mirrors env where
  get? x := by
    rw [h.get? x, get?_eq F.push, Scopes.push, Store.get?_empty, Option.none_or, Scopes.get?]
  apart := by
    apply List.pairwise_cons.2
    constructor
    · intro g _ x
      exact .inl (Store.kind?_eq_none_iff.2 (Store.get?_empty x))
    · exact h.apart

theorem declare (h : F.Mirrors env) {x : String} (hx : ∀ f ∈ F.below, f.get? x = none)
    (v : Value) : (F.declare x v).Mirrors (env.declare x v) where
  get? y := by
    rw [get?_eq, Scopes.declare, Store.get?_declare, Store.get?_declare, h.get? y]
    by_cases he : x = y
    · rw [if_pos he, if_pos he, Option.some_or]
    · rw [if_neg he, if_neg he, get?_eq]
  apart := by
    obtain ⟨htop, hbelow⟩ := List.pairwise_cons.1 h.apart
    apply List.pairwise_cons.2
    constructor
    · intro g hg y
      obtain ⟨f, hf, rfl⟩ := List.mem_map.1 hg
      rw [Scopes.declare, Store.kind?_declare]
      by_cases he : x = y
      · exact .inr (Store.kind?_eq_none_iff.2 (he ▸ hx f hf))
      · rw [if_neg he]
        exact htop _ hg y
    · exact hbelow

theorem rebind (h : F.Mirrors env) {x : String} {v w : Value} (hx : env.get? x = some w)
    (hk : w.kind = v.kind) : (F.rebind x v).Mirrors (env.declare x v) where
  get? y := by
    rw [Store.get?_declare, Scopes.get?, frames_rebind,
      lookup_rebindFirst ((h.get? x).symm.trans hx), h.get? y, Scopes.get?]
  apart := by
    rw [frames_rebind, Apart, shape_rebindFirst ((h.get? x).symm.trans hx) hk]
    exact h.apart

theorem assign (h : F.Mirrors env) (x : String) (v : Value) :
    (F.assign x v = .ok (F.rebind x v) ∧ env.assign x v = .ok (env.declare x v) ∧
        (F.rebind x v).Mirrors (env.declare x v) ∧
        shape (F.rebind x v).below = shape F.below) ∨
      ∃ fault, F.assign x v = .error fault ∧ env.assign x v = .error fault := by
  rw [Scopes.assign, Store.assign, ← h.get? x]
  cases hx : env.get? x with
  | none => exact .inr ⟨_, rfl, rfl⟩
  | some w =>
    by_cases hk : w.sameKind v
    · have hk' := Value.sameKind_iff.1 hk
      have hs := shape_rebindFirst ((h.get? x).symm.trans hx) hk'
      rw [← frames_rebind] at hs
      exact .inl ⟨if_pos hk, if_pos hk, h.rebind hx hk', (List.cons.inj hs).2⟩
    · exact .inr ⟨_, if_neg hk, if_neg hk⟩

theorem pop (h : F.Mirrors env) (hF : F.below ≠ []) {outer : Store}
    (hk : ∀ x, outer.kind? x = (lookup x F.below).map Value.kind) :
    F.pop.Mirrors (outer.merge env) where
  get? x := by
    obtain ⟨htop, -⟩ := List.pairwise_cons.1 h.apart
    have hx := h.get? x
    have ho := hk x
    rw [Scopes.get?, frames_pop hF]
    cases hb : lookup x F.below with
    | none =>
      rw [hb, Option.map_none] at ho
      exact Store.kind?_eq_none_iff.1 ((Store.kind?_merge _ _ _).trans ho)
    | some v =>
      obtain ⟨f, hf, hfx⟩ := exists_of_lookup hb
      have ht : F.top.get? x = none := by
        have hfk : f.kind? x ≠ none := by
          rw [Store.kind?_of_get? hfx]
          exact Option.some_ne_none _
        exact Store.kind?_eq_none_iff.1 ((htop _ (List.mem_map_of_mem hf) x).resolve_right hfk)
      rw [get?_eq, ht, hb, Option.none_or] at hx
      rw [hb, Option.map_some, ← Store.kind?_of_get? hx] at ho
      rw [Store.get?_merge_of_kind? ho.symm, hx]
  apart := by
    rw [frames_pop hF]
    exact (List.pairwise_cons.1 h.apart).2

end Mirrors

end Scopes

end WhileLang
