import WhileLang.Proofs.Kinds

namespace WhileLang

theorem Value.exists_ne_of_kind {v : Value} (h : v.kind ≠ .undefined) :
    ∃ w : Value, w.kind = v.kind ∧ w ≠ v := by
  cases v with
  | int n =>
    by_cases hn : n = 0
    · exact ⟨.int 1, rfl, by rw [hn]; decide⟩
    · exact ⟨.int 0, rfl, fun he => hn (Value.int.inj he).symm⟩
  | bool b => exact ⟨.bool !b, rfl, by cases b <;> decide⟩
  | undefined => exact absurd rfl h

namespace Store

variable {outer mid inner : Store} {x : String}

theorem kind?_empty (x : String) : empty.kind? x = none := by
  rw [kind?, get?_empty, Option.map_none]

theorem get?_of_kind?_undefined {s : Store} (h : s.kind? x = some .undefined) :
    s.get? x = some .undefined := by
  obtain ⟨v, hv, hk⟩ := Option.map_eq_some_iff.1 h
  cases v with
  | int n => cases hk
  | bool b => cases hk
  | undefined => exact hv

theorem contains_merge (outer inner : Store) (x : String) :
    (outer.merge inner).contains x = outer.contains x := by
  rw [← isSome_kind?, kind?_merge, isSome_kind?]

theorem get?_merge_ite (outer inner : Store) (x : String) :
    (outer.merge inner).get? x =
      if inner.kind? x = outer.kind? x then inner.get? x else outer.get? x := by
  by_cases h : inner.kind? x = outer.kind? x
  · rw [get?_merge_of_kind? h, if_pos h]
  · rw [get?_merge_of_kind?_ne h, if_neg h]

theorem merge_idem (outer inner : Store) : outer.merge (outer.merge inner) = outer.merge inner :=
  merge_eq_of_kind? (outer.kind?_merge inner)

theorem get?_merge_merge_of_kind? (h : mid.kind? x = outer.kind? x) :
    (outer.merge (mid.merge inner)).get? x = ((outer.merge mid).merge inner).get? x := by
  have hleft : (outer.merge (mid.merge inner)).get? x = (mid.merge inner).get? x :=
    get?_merge_of_kind? ((mid.kind?_merge inner x).trans h)
  rw [hleft, get?_merge_ite, get?_merge_ite, kind?_merge, h, get?_merge_of_kind? h]

theorem merge_merge_of_kind?
    (h : ∀ x k, outer.kind? x = some k → k ≠ .undefined → mid.kind? x = some k) :
    outer.merge (mid.merge inner) = (outer.merge mid).merge inner := by
  apply ext_get?
  intro x
  have hleft := outer.kind?_merge (mid.merge inner) x
  have hright := ((outer.merge mid).kind?_merge inner x).trans (outer.kind?_merge mid x)
  cases hk : outer.kind? x with
  | none =>
    rw [hk] at hleft hright
    rw [kind?_eq_none_iff.1 hleft, kind?_eq_none_iff.1 hright]
  | some k =>
    by_cases hu : k = .undefined
    · rw [hk, hu] at hleft hright
      rw [get?_of_kind?_undefined hleft, get?_of_kind?_undefined hright]
    · exact get?_merge_merge_of_kind? ((h x k hk hu).trans hk.symm)

/-- The condition on the middle scope is needed: a name that changes its kind there and changes it
back further inside keeps its value when the scopes are left one by one. -/
theorem merge_merge_iff :
    (∀ inner, outer.merge (mid.merge inner) = (outer.merge mid).merge inner) ↔
      ∀ x k, outer.kind? x = some k → k ≠ .undefined → mid.kind? x = some k := by
  constructor
  · intro h x k hk hu
    obtain ⟨v, hv, rfl⟩ := Option.map_eq_some_iff.1 hk
    obtain ⟨w, hw, hne⟩ := v.exists_ne_of_kind hu
    apply Decidable.byContradiction
    intro hmid
    have hget : (empty.declare x w).get? x = some w := by rw [get?_declare, if_pos rfl]
    have hkind : (empty.declare x w).kind? x = some v.kind := hw ▸ kind?_of_get? hget
    have hleft : (outer.merge (mid.merge (empty.declare x w))).get? x = some v := by
      rw [get?_merge_of_kind?_ne, hv]
      rw [kind?_merge, hk]
      exact hmid
    have hright : ((outer.merge mid).merge (empty.declare x w)).get? x = some w := by
      rw [get?_merge_of_kind?, hget]
      rw [kind?_merge, hk, hkind]
    rw [h, hright] at hleft
    exact hne (Option.some.inj hleft)
  · intro h inner
    exact merge_merge_of_kind? h

/-- A merge has the outer names at their outer kinds, each with the inner value if that is of the
kind. Absorbing it gives it, merging a scope with itself changes nothing, and merging twice is
merging once. Of nested scopes each may be merged into the next or the inner ones first, where the
middle one holds the outer names at their kinds. -/
theorem merge_laws (outer mid inner : Store) :
    (∀ x, (outer.merge inner).contains x = outer.contains x ∧
      (outer.merge inner).kind? x = outer.kind? x ∧
      (outer.merge inner).get? x =
        if inner.kind? x = outer.kind? x then inner.get? x else outer.get? x) ∧
    outer.absorb (outer.merge inner) = outer.merge inner ∧
    outer.merge outer = outer ∧
    outer.merge (outer.merge inner) = outer.merge inner ∧
    ((∀ x k, outer.kind? x = some k → mid.kind? x = some k) →
      outer.merge (mid.merge inner) = (outer.merge mid).merge inner) := by
  refine ⟨?_, outer.reconcile_eq_merge inner, outer.merge_self, outer.merge_idem inner, ?_⟩
  · intro x
    exact ⟨outer.contains_merge inner x, outer.kind?_merge inner x, outer.get?_merge_ite inner x⟩
  · intro h
    apply merge_merge_of_kind?
    intro x k hk _
    exact h x k hk

theorem merge_laws_threeScopes :
    let outer := ((empty.declare "a" (.int 1)).declare "b" (.bool true)).declare "u" .undefined
    let mid := ((outer.declare "a" (.int 2)).declare "b" (.bool false)).declare "c" (.int 3)
    let inner := ((empty.declare "a" .undefined).declare "b" (.bool true)).declare "c" (.int 4)
    (∀ x k, outer.kind? x = some k → mid.kind? x = some k) ∧
      outer.merge (mid.merge inner) = (outer.merge mid).merge inner ∧
      (outer.merge mid).merge inner = outer.declare "a" (.int 2) := by
  intro outer mid inner
  have h : ∀ x k, outer.kind? x = some k → mid.kind? x = some k := by
    intro x k hk
    simp only [outer, mid, kind?_declare, kind?_empty, Value.kind] at hk ⊢
    grind
  obtain ⟨-, -, -, -, hnested⟩ := merge_laws outer mid inner
  exact ⟨h, hnested h, by decide +kernel⟩

end Store

end WhileLang
