import WhileLang.Store

namespace WhileLang.Store

def kind? (s : Store) (x : String) : Option Kind :=
  (s.get? x).map Value.kind

@[simp] theorem isSome_kind? (s : Store) (x : String) : (s.kind? x).isSome = s.contains x := by
  rw [kind?, Option.isSome_map, contains]

theorem kind?_eq_none_iff {s : Store} {x : String} : s.kind? x = none ↔ s.get? x = none :=
  Option.map_eq_none_iff

theorem kind?_of_get? {s : Store} {x : String} {v : Value} (h : s.get? x = some v) :
    s.kind? x = some v.kind := by
  rw [kind?, h, Option.map_some]

theorem kind?_declare (s : Store) (x y : String) (v : Value) :
    (s.declare x v).kind? y = if x = y then some v.kind else s.kind? y := by
  rw [kind?, get?_declare]
  split
  · rfl
  · rfl

theorem kind?_merge (outer inner : Store) (x : String) :
    (outer.merge inner).kind? x = outer.kind? x := by
  rw [kind?, get?_merge, kind?]
  cases outer.get? x with
  | none => rfl
  | some v => exact congrArg some (kind_settle v _)

theorem get?_merge_of_kind? {outer inner : Store} {x : String}
    (h : inner.kind? x = outer.kind? x) : (outer.merge inner).get? x = inner.get? x := by
  rw [get?_merge]
  cases ho : outer.get? x with
  | none =>
    have hi : inner.get? x = none := kind?_eq_none_iff.1 (h.trans (kind?_eq_none_iff.2 ho))
    rw [hi, Option.map_none]
  | some v =>
    rw [kind?_of_get? ho] at h
    obtain ⟨w, hw, hk⟩ := Option.map_eq_some_iff.1 h
    rw [hw, Option.map_some, settle_some, if_pos hk]

theorem get?_merge_of_kind?_ne {outer inner : Store} {x : String}
    (h : inner.kind? x ≠ outer.kind? x) : (outer.merge inner).get? x = outer.get? x := by
  rw [get?_merge]
  cases ho : outer.get? x with
  | none => rfl
  | some v => cases hi : inner.get? x with
    | none => rfl
    | some w =>
      have hk : w.kind ≠ v.kind := by
        intro hk
        rw [kind?_of_get? hi, kind?_of_get? ho, hk] at h
        exact h rfl
      rw [Option.map_some, settle_some, if_neg hk]

theorem merge_eq_of_kind? {outer inner : Store} (h : ∀ x, inner.kind? x = outer.kind? x) :
    outer.merge inner = inner :=
  ext_get? fun x => get?_merge_of_kind? (h x)

theorem merge_self (s : Store) : s.merge s = s :=
  merge_eq_of_kind? fun _ => rfl

theorem assign_eq_ok_iff {s t : Store} {x : String} {v : Value} :
    s.assign x v = .ok t ↔ s.kind? x = some v.kind ∧ s.declare x v = t := by
  rw [assign, kind?]
  cases s.get? x with
  | none => simp
  | some w =>
    by_cases hk : w.kind = v.kind
    · simp [hk]
    · simp [hk]

theorem assign_error_cases {s : Store} {x : String} {v : Value} {fault : Fault}
    (h : s.assign x v = .error fault) :
    (s.get? x = none ∧ fault = .undeclared x) ∨
      ∃ w, s.get? x = some w ∧ w.kind ≠ v.kind ∧ fault = .kindMismatch x w.kind v.kind := by
  rw [assign] at h
  cases hx : s.get? x with
  | none =>
    rw [hx] at h
    exact .inl ⟨rfl, (Except.error.inj h).symm⟩
  | some w =>
    rw [hx] at h
    by_cases hk : w.sameKind v
    · cases (if_pos hk).symm.trans h
    · have hfault := Except.error.inj ((if_neg hk).symm.trans h)
      exact .inr ⟨w, rfl, fun he => hk (Value.sameKind_iff.2 he), hfault.symm⟩

theorem kind?_of_assign {s t : Store} {x : String} {v : Value} (h : s.assign x v = .ok t)
    (y : String) : t.kind? y = s.kind? y := by
  obtain ⟨hk, rfl⟩ := assign_eq_ok_iff.1 h
  rw [kind?_declare]
  split
  · rename_i he
    rw [← he, hk]
  · rfl

end WhileLang.Store
