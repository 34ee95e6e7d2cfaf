import Mathlib.Data.List.Forall2
import Mathlib.Data.Set.Basic
import WhileLang.Proofs.Events
import WhileLang.Proofs.Kinds
import WhileLang.Proofs.Lockstep
import WhileLang.Proofs.Run

namespace WhileLang

namespace Store

/-- The names of `N` read alike in both stores. -/
def AgreesOn (N : Set String) (s t : Store) : Prop :=
  ∀ x ∈ N, s.get? x = t.get? x

namespace AgreesOn

variable {N : Set String} {s t s' t' : Store}

theorem refl (N : Set String) (s : Store) : s.AgreesOn N s := fun _ _ => rfl

theorem eq_of_univ (h : s.AgreesOn Set.univ t) : s = t :=
  ext_get? fun x => h x (Set.mem_univ x)

theorem declare (h : s.AgreesOn N t) (x : String) (v : Value) :
    (s.declare x v).AgreesOn N (t.declare x v) := by
  intro y hy
  rw [get?_declare, get?_declare, h y hy]

theorem merge (h : s.AgreesOn N t) (h' : s'.AgreesOn N t') :
    (s.merge s').AgreesOn N (t.merge t') := by
  intro x hx
  rw [get?_merge, get?_merge, h x hx, h' x hx]

theorem assign (h : s.AgreesOn N t) {x : String} (hx : x ∈ N) (v : Value) :
    (s.assign x v = .ok (s.declare x v) ∧ t.assign x v = .ok (t.declare x v)) ∨
      ∃ fault, s.assign x v = .error fault ∧ t.assign x v = .error fault := by
  rw [Store.assign, Store.assign, ← h x hx]
  cases s.get? x with
  | none => exact .inr ⟨_, rfl, rfl⟩
  | some w =>
    by_cases hk : w.sameKind v
    · exact .inl ⟨if_pos hk, if_pos hk⟩
    · exact .inr ⟨_, if_neg hk, if_neg hk⟩

end AgreesOn

end Store

/-- Two expressions with one value wherever the stores agree. -/
def Expr.SameOn (N : Set String) (d e : Expr) : Prop :=
  ∀ env₁ env₂ : Store, env₁.AgreesOn N env₂ → d.eval env₁ = e.eval env₂

variable {σ τ : Type} [Sink σ] [Sink τ]

namespace Machine

/-- The first machine goes on to the third and the second to the fourth, and `P` relates what they
leave event by event. -/
def InStep (P : Event → Event → Prop) (m₁ : Machine σ) (m₂ : Machine τ) (m₁' : Machine σ)
    (m₂' : Machine τ) : Prop :=
  ∃ es fs, m₁' = m₁.feed es ∧ m₂' = m₂.feed fs ∧ List.Forall₂ P es fs

namespace InStep

variable {P : Event → Event → Prop} {m₁ m₁' m₁'' : Machine σ} {m₂ m₂' m₂'' : Machine τ}

theorem refl (P : Event → Event → Prop) (m₁ : Machine σ) (m₂ : Machine τ) :
    InStep P m₁ m₂ m₁ m₂ :=
  ⟨[], [], rfl, rfl, .nil⟩

theorem trans (h : InStep P m₁ m₂ m₁' m₂') (h' : InStep P m₁' m₂' m₁'' m₂'') :
    InStep P m₁ m₂ m₁'' m₂'' := by
  obtain ⟨es, fs, rfl, rfl, hes⟩ := h
  obtain ⟨es', fs', rfl, rfl, hes'⟩ := h'
  have hall := List.rel_append hes hes'
  exact ⟨es ++ es', fs ++ fs', (feed_append ..).symm, (feed_append ..).symm, hall⟩

theorem record {e f : Event} (h : P e f) : InStep P m₁ m₂ (m₁.record e) (m₂.record f) :=
  ⟨[e], [f], rfl, rfl, .cons h .nil⟩

end InStep

end Machine

/-- Two runs that were entered with `m₁` and `m₂` end alike. -/
structure Twin (P : Event → Event → Prop) (N : Set String) (m₁ : Machine σ) (m₂ : Machine τ)
    (r : Machine σ × Store) (q : Machine τ × Store) : Prop where
  events : Machine.InStep P m₁ m₂ r.1 q.1
  stores : r.2.AgreesOn N q.2

section Bodies

variable {P : Event → Event → Prop} {N : Set String} {m₁ : Machine σ} {m₂ : Machine τ}
  {env₁ env₂ : Store} {r : Machine σ × Store} {q : Machine τ × Store} {c d : Expr}

theorem Twin.trans {r' : Machine σ × Store} {q' : Machine τ × Store} (h : Twin P N m₁ m₂ r q)
    (h' : Twin P N r.1 q.1 r' q') : Twin P N m₁ m₂ r' q' :=
  ⟨h.events.trans h'.events, h'.stores⟩

theorem Twin.merge (h : Twin P N m₁ m₂ r q) (henv : env₁.AgreesOn N env₂) :
    Twin P N m₁ m₂ (r.1, env₁.merge r.2) (q.1, env₂.merge q.2) :=
  ⟨h.events, henv.merge h.stores⟩

theorem branch_twin {yes₁ no₁ : Machine σ → Store → Option (Machine σ × Store)}
    {yes₂ no₂ : Machine τ → Store → Option (Machine τ × Store)} (henv : env₁.AgreesOn N env₂)
    (hc : c.SameOn N d)
    (hP : ∀ k, P (.diagnostic (.condition "if" c k)) (.diagnostic (.condition "if" d k)))
    (hyes : Option.Rel (Twin P N m₁ m₂) (yes₁ m₁ env₁) (yes₂ m₂ env₂))
    (hno : Option.Rel (Twin P N m₁ m₂) (no₁ m₁ env₁) (no₂ m₂ env₂)) :
    Option.Rel (Twin P N m₁ m₂) (branch c yes₁ no₁ m₁ env₁) (branch d yes₂ no₂ m₂ env₂) := by
  have hd := hc env₁ env₂ henv
  rcases (c.eval env₁).truth_cases with hv | hv | hv
  · rw [branch, branch, ← hd, hv]
    exact hyes
  · rw [branch, branch, ← hd, hv]
    exact hno
  · rw [branch_of_kind hv, branch_of_kind (hd ▸ hv), ← hd]
    exact .some ⟨.record (hP _), henv⟩

theorem loopRound_twin {body₁ : Machine σ → Store → Option (Machine σ × Store)}
    {body₂ : Machine τ → Store → Option (Machine τ × Store)} (henv : env₁.AgreesOn N env₂)
    (hc : c.SameOn N d)
    (hP : ∀ k, P (.diagnostic (.condition "while" c k)) (.diagnostic (.condition "while" d k)))
    (hbody : ∀ (n₁ : Machine σ) (n₂ : Machine τ) (i₁ i₂ : Store), i₁.AgreesOn N i₂ →
      Option.Rel (Twin P N n₁ n₂) (body₁ n₁ i₁) (body₂ n₂ i₂))
    (h : Twin P N m₁ m₂ r q) :
    Option.Rel (Round.Rel (Twin P N m₁ m₂) (Twin P N m₁ m₂)) (loopRound c body₁ env₁ r)
      (loopRound d body₂ env₂ q) := by
  obtain ⟨n₁, i₁⟩ := r
  obtain ⟨n₂, i₂⟩ := q
  have hd := hc i₁ i₂ h.stores
  rcases (c.eval i₁).truth_cases with hv | hv | hv
  · rw [loopRound_of_true hv, loopRound_of_true (hd ▸ hv), Option.map_map, Option.map_map]
    apply optionRel_map (hbody n₁ n₂ i₁ i₂ h.stores)
    intro r' q' _ h'
    exact .again ((h.trans h').merge henv)
  · rw [loopRound_of_false hv, loopRound_of_false (hd ▸ hv)]
    exact .some (.done h)
  · rw [loopRound_of_kind hv, loopRound_of_kind (hd ▸ hv), ← hd]
    exact .some (.done ⟨h.events.trans (.record (hP _)), h.stores⟩)

end Bodies

namespace Stmt

/-- From stores that agree on `N` both statements run alike, whatever machines they run on. -/
def Matches (σ τ : Type) [Sink σ] [Sink τ] (P : Event → Event → Prop) (N : Set String) (k : Nat)
    (s t : Stmt) : Prop :=
  ∀ (m₁ : Machine σ) (m₂ : Machine τ) (env₁ env₂ : Store), env₁.AgreesOn N env₂ →
    Option.Rel (Twin P N m₁ m₂) (s.exec k m₁ env₁) (t.exec k m₂ env₂)

namespace Matches

variable {P : Event → Event → Prop} {N : Set String} {k : Nat} {s s' t t' : Stmt} {x : String}
  {c d e : Expr}

theorem seq (hs : Matches σ τ P N k s s') (ht : Matches σ τ P N k t t') :
    Matches σ τ P N k (seq s t) (seq s' t') := by
  intro m₁ m₂ env₁ env₂ henv
  rw [exec_seq, exec_seq]
  apply optionRel_bind (hs m₁ m₂ env₁ env₂ henv)
  intro r q _ h
  apply optionRel_mono (ht r.1 q.1 r.2 q.2 h.stores)
  intro r' q' h'
  exact h.trans h'

theorem declare (x : String) (he : d.SameOn N e) :
    Matches σ τ P N k (declare x d) (declare x e) := by
  intro m₁ m₂ env₁ env₂ henv
  rw [exec, exec, he env₁ env₂ henv]
  exact .some ⟨.refl P m₁ m₂, henv.declare x _⟩

theorem assign (hx : x ∈ N) (he : d.SameOn N e)
    (hP : ∀ fault, P (.diagnostic ⟨fault, (assign x d).text⟩)
      (.diagnostic ⟨fault, (assign x e).text⟩)) :
    Matches σ τ P N k (assign x d) (assign x e) := by
  intro m₁ m₂ env₁ env₂ henv
  rw [exec, exec, he env₁ env₂ henv]
  rcases henv.assign hx (e.eval env₂) with ⟨h₁, h₂⟩ | ⟨fault, h₁, h₂⟩
  · rw [h₁, h₂]
    exact .some ⟨.refl P m₁ m₂, henv.declare x _⟩
  · rw [h₁, h₂]
    exact .some ⟨.record (hP fault), henv⟩

theorem whileDo (hc : c.SameOn N d)
    (hP : ∀ k, P (.diagnostic (.condition "while" c k)) (.diagnostic (.condition "while" d k)))
    (hs : Matches σ τ P N k s t) : Matches σ τ P N k (whileDo c s) (whileDo d t) := by
  intro m₁ m₂ env₁ env₂ henv
  rw [exec_whileDo, exec_whileDo]
  have hloop := iterate_rel (fun _ _ h => loopRound_twin henv hc hP hs h) k
    (a := (m₁, env₁)) (b := (m₂, env₂)) ⟨.refl P m₁ m₂, henv⟩
  apply optionRel_map hloop
  intro r q _ h
  exact h.merge henv

theorem ifElse (hc : c.SameOn N d)
    (hP : ∀ k, P (.diagnostic (.condition "if" c k)) (.diagnostic (.condition "if" d k)))
    (hs : Matches σ τ P N k s s') (ht : Matches σ τ P N k t t') :
    Matches σ τ P N k (ifElse c s t) (ifElse d s' t') := by
  intro m₁ m₂ env₁ env₂ henv
  rw [exec_ifElse, exec_ifElse]
  apply optionRel_map (branch_twin henv hc hP (hs m₁ m₂ env₁ env₂ henv)
    (ht m₁ m₂ env₁ env₂ henv))
  intro r q _ h
  exact h.merge henv

theorem print (he : d.SameOn N e) (hP : ∀ text, P (.line text) (.line text)) :
    Matches σ τ P N k (print d) (print e) := by
  intro m₁ m₂ env₁ env₂ henv
  rw [exec, exec, he env₁ env₂ henv]
  exact .some ⟨.record (hP _), henv⟩

theorem runs (h : ∀ k, Matches σ τ P N k s t) (m₁ : Machine σ) (m₂ : Machine τ)
    {env₁ env₂ : Store} (henv : env₁.AgreesOn N env₂) :
    ((∃ r, s.Runs m₁ env₁ r) ↔ ∃ q, t.Runs m₂ env₂ q) ∧
      ∀ r q, s.Runs m₁ env₁ r → t.Runs m₂ env₂ q → Twin P N m₁ m₂ r q := by
  have hrel (k : Nat) := h k m₁ m₂ env₁ env₂ henv
  constructor
  · constructor
    · intro hr
      obtain ⟨r, k, hk⟩ := hr
      obtain ⟨q, hq, -⟩ := optionRel_left (hk ▸ hrel k)
      exact ⟨q, k, hq⟩
    · intro hq
      obtain ⟨q, k, hk⟩ := hq
      obtain ⟨r, hr, -⟩ := optionRel_right (hk ▸ hrel k)
      exact ⟨r, k, hr⟩
  · intro r q hr hq
    obtain ⟨k, hk⟩ := hr
    obtain ⟨q', hq', htwin⟩ := optionRel_left (hk ▸ hrel k)
    have he : q' = q := Runs.unique ⟨k, hq'⟩ hq
    exact he ▸ htwin

end Matches

end Stmt

end WhileLang
