import WhileLang.Gallery
import WhileLang.Proofs.Kinds
import WhileLang.Proofs.Run
import WhileLang.Stmt.Names

namespace WhileLang

/-- What running a piece of code may change in a store: it binds the names of `outside`, every other
name keeps its kind, and a name of neither `declared` nor `assigned` keeps its value. -/
structure Frame (outside declared assigned : List String) (s t : Store) : Prop where
  bound : ∀ x ∈ outside, t.contains x
  kind : ∀ x ∉ outside, t.kind? x = s.kind? x
  value : ∀ x ∉ declared, x ∉ assigned → t.get? x = s.get? x

namespace Frame

variable {o o' d d' a a' : List String} {s t u : Store}

theorem refl (d a : List String) (s : Store) : Frame [] d a s s :=
  ⟨fun _ h => absurd h List.not_mem_nil, fun _ _ => rfl, fun _ _ _ => rfl⟩

theorem mono (h : Frame o d a s t) (hd : d ⊆ d') (ha : a ⊆ a') : Frame o d' a' s t :=
  ⟨h.bound, h.kind, fun x hx hx' => h.value x (fun hm => hx (hd hm)) (fun hm => hx' (ha hm))⟩

theorem trans (h : Frame o d a s t) (h' : Frame o' d a t u) : Frame (o ++ o') d a s u where
  bound x hx := by
    by_cases hx' : x ∈ o'
    · exact h'.bound x hx'
    · have hb := h.bound x ((List.mem_append.1 hx).resolve_right hx')
      rw [← Store.isSome_kind?, h'.kind x hx', Store.isSome_kind?]
      exact hb
  kind x hx :=
    (h'.kind x fun hm => hx (List.mem_append_right _ hm)).trans
      (h.kind x fun hm => hx (List.mem_append_left _ hm))
  value x hx hx' := (h'.value x hx hx').trans (h.value x hx hx')

theorem contains_iff (h : Frame o d a s t) (x : String) :
    t.contains x ↔ s.contains x ∨ x ∈ o := by
  by_cases hx : x ∈ o
  · exact iff_of_true (h.bound x hx) (.inr hx)
  · rw [or_iff_left hx, ← Store.isSome_kind?, h.kind x hx, Store.isSome_kind?]

theorem merge (h : Frame o d a s t) : Frame [] d a s (s.merge t) where
  bound _ hx := absurd hx List.not_mem_nil
  kind x _ := s.kind?_merge t x
  value x hx hx' := by
    have hv := h.value x hx hx'
    rw [Store.get?_merge_of_kind? (congrArg (Option.map Value.kind) hv), hv]

theorem declare (s : Store) (x : String) (v : Value) : Frame [x] [x] [] s (s.declare x v) where
  bound y hy := by
    rw [List.mem_singleton.1 hy, Store.contains, Store.get?_declare, if_pos rfl]
    rfl
  kind y hy := by
    rw [Store.kind?_declare, if_neg fun he => hy (List.mem_singleton.2 he.symm)]
  value y hy _ := by
    rw [Store.get?_declare, if_neg fun he => hy (List.mem_singleton.2 he.symm)]

theorem assign {x : String} {v : Value} (h : s.assign x v = .ok t) : Frame [] [] [x] s t where
  bound _ hy := absurd hy List.not_mem_nil
  kind y _ := Store.kind?_of_assign h y
  value y _ hy := by
    obtain ⟨-, rfl⟩ := Store.assign_eq_ok_iff.1 h
    rw [Store.get?_declare, if_neg fun he => hy (List.mem_singleton.2 he.symm)]

end Frame

namespace Stmt

variable {σ : Type} [Sink σ] {m m' : Machine σ} {env env' : Store}

theorem exec_frame {k : Nat} {s : Stmt} (h : s.exec k m env = some (m', env')) :
    Frame s.declaredOutside s.declared s.assigned env env' := by
  induction s generalizing m env m' env' with
  | seq s t ihs iht =>
    obtain ⟨m₁, env₁, hs, ht⟩ := exec_seq_cases h
    have hs' := (ihs hs).mono (List.subset_append_left _ t.declared)
      (List.subset_append_left _ t.assigned)
    have ht' := (iht ht).mono (List.subset_append_right s.declared _)
      (List.subset_append_right s.assigned _)
    exact hs'.trans ht'
  | declare x e =>
    cases h
    exact .declare env x _
  | assign x e =>
    rcases exec_assign_cases h with ⟨hok, -⟩ | ⟨fault, -, rfl, -⟩
    · exact .assign hok
    · exact .refl _ _ _
  | whileDo c body ih =>
    have hround : ∀ (m₁ m₂ : Machine σ) i₁ i₂, Frame [] body.declared body.assigned env i₁ →
        c.eval i₁ = .bool true → body.exec k m₁ i₁ = some (m₂, i₂) →
        Frame [] body.declared body.assigned env (env.merge i₂) := by
      intro m₁ m₂ i₁ i₂ hf _ hb
      exact (hf.trans (ih hb)).merge
    obtain ⟨inner, hinner, rfl⟩ :=
      exec_whileDo_invariant (P := fun _ i => Frame [] body.declared body.assigned env i) h
        (.refl _ _ _) hround (fun _ _ hf _ => hf)
    exact hinner.merge
  | ifElse c s t ihs iht =>
    obtain ⟨inner, rfl, hc⟩ := exec_ifElse_cases h
    rcases hc with ⟨-, hs⟩ | ⟨-, ht⟩ | ⟨-, rfl, -⟩
    · exact ((ihs hs).mono (List.subset_append_left _ _) (List.subset_append_left _ _)).merge
    · exact ((iht ht).mono (List.subset_append_right _ _) (List.subset_append_right _ _)).merge
    · exact (Frame.refl _ _ _).merge
  | print e =>
    cases h
    exact .refl _ _ _
  | block s ih => exact ih h

/-- A run that ends leaves the names it found and those it declared outside of all bodies. A name
that is not declared there keeps its kind, and one that is written nowhere keeps its value. A loop
or a branch keeps all names and kinds. -/
theorem Runs.frame {s : Stmt} (h : s.Runs m env (m', env')) :
    (∀ x, env'.contains x ↔ env.contains x ∨ x ∈ s.declaredOutside) ∧
      (∀ x v, env.get? x = some v → x ∉ s.declaredOutside →
        ∃ w, env'.get? x = some w ∧ w.kind = v.kind) ∧
      (∀ x v, env.get? x = some v → x ∉ s.declared → x ∉ s.assigned → env'.get? x = some v) ∧
      ((∃ c body, s = whileDo c body) ∨ (∃ c t u, s = ifElse c t u) →
        ∀ x, env'.kind? x = env.kind? x) := by
  obtain ⟨k, hk⟩ := h
  have hf := exec_frame hk
  refine ⟨?_, ?_, ?_, ?_⟩
  · intro x
    by_cases hx : x ∈ s.declaredOutside
    · exact iff_of_true (hf.bound x hx) (.inr hx)
    · rw [or_iff_left hx, ← Store.isSome_kind?, hf.kind x hx, Store.isSome_kind?]
  · intro x v hv hx
    have hk' := (hf.kind x hx).trans (Store.kind?_of_get? hv)
    exact Option.map_eq_some_iff.1 hk'
  · intro x v hv hd ha
    exact (hf.value x hd ha).trans hv
  · intro hs x
    rcases hs with ⟨c, body, rfl⟩ | ⟨c, t, u, rfl⟩
    · exact hf.kind x List.not_mem_nil
    · exact hf.kind x List.not_mem_nil

theorem Runs.frame_whileScoping :
    ∃ m' env', Gallery.whileScoping.body.Runs (.start Log.empty)
        (Store.empty.declare "k" (.bool true)) (m', env') ∧
      (∀ x, env'.contains x ↔
        (Store.empty.declare "k" (.bool true)).contains x ∨ x ∈ ["i", "j"]) ∧
      env'.get? "k" = some (.bool true) := by
  have hends : (Gallery.whileScoping.body.exec 6 (.start Log.empty)
      (Store.empty.declare "k" (.bool true))).isSome := by decide +kernel
  obtain ⟨⟨m', env'⟩, h⟩ := Option.isSome_iff_exists.1 hends
  have hf := Runs.frame ⟨6, h⟩
  exact ⟨m', env', ⟨6, h⟩, hf.1, hf.2.2.1 "k" (.bool true) rfl (by decide) (by decide)⟩

end Stmt

end WhileLang
