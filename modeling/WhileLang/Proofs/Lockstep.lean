import WhileLang.Loop

namespace WhileLang

variable {α β γ δ : Type} {R : α → β → Prop} {S : γ → δ → Prop}

theorem optionRel_left {a : α} {b? : Option β} (h : Option.Rel R (some a) b?) :
    ∃ b, b? = some b ∧ R a b := by
  cases h with
  | some hab => exact ⟨_, rfl, hab⟩

theorem optionRel_right {a? : Option α} {b : β} (h : Option.Rel R a? (some b)) :
    ∃ a, a? = some a ∧ R a b := by
  cases h with
  | some hab => exact ⟨_, rfl, hab⟩

/-- Two runs that end together go on together. The second run may use how the first one ended. -/
theorem optionRel_bind {a? : Option α} {b? : Option β} {f : α → Option γ} {g : β → Option δ}
    (h : Option.Rel R a? b?) (hfg : ∀ a b, a? = some a → R a b → Option.Rel S (f a) (g b)) :
    Option.Rel S (a?.bind f) (b?.bind g) := by
  cases h with
  | none => exact .none
  | some hab => exact hfg _ _ rfl hab

theorem optionRel_map {a? : Option α} {b? : Option β} {f : α → γ} {g : β → δ}
    (h : Option.Rel R a? b?) (hfg : ∀ a b, a? = some a → R a b → S (f a) (g b)) :
    Option.Rel S (a?.map f) (b?.map g) := by
  cases h with
  | none => exact .none
  | some hab => exact .some (hfg _ _ rfl hab)

theorem optionRel_map_right {a? : Option α} {b? : Option β} {T : α → δ → Prop} {g : β → δ}
    (h : Option.Rel R a? b?) (hg : ∀ a b, R a b → T a (g b)) : Option.Rel T a? (b?.map g) := by
  cases h with
  | none => exact .none
  | some hab => exact .some (hg _ _ hab)

theorem optionRel_mono {a? : Option α} {b? : Option β} {T : α → β → Prop}
    (h : Option.Rel R a? b?) (hRT : ∀ a b, R a b → T a b) : Option.Rel T a? b? := by
  cases h with
  | none => exact .none
  | some hab => exact .some (hRT _ _ hab)

/-- The second of two runs that end together is a function of the first when its end is. -/
theorem eq_map_of_optionRel {a? : Option α} {b? : Option β} {f : α → β} (h : Option.Rel R a? b?)
    (hf : ∀ a b, a? = some a → R a b → b = f a) : b? = a?.map f := by
  cases h with
  | none => rfl
  | some hab => exact congrArg some (hf _ _ rfl hab)

/-- Rounds that end the same way: those that go on leave states that `R` relates, and last rounds
leave states that `T` relates. -/
inductive Round.Rel (R T : α → β → Prop) : Round α → Round β → Prop
  | again {a : α} {b : β} (h : R a b) : Rel R T (.again a) (.again b)
  | done {a : α} {b : β} (h : T a b) : Rel R T (.done a) (.done b)

theorem iterate_rel {T : α → β → Prop} {f : α → Option (Round α)} {g : β → Option (Round β)}
    (hfg : ∀ a b, R a b → Option.Rel (Round.Rel R T) (f a) (g b)) (bound : Nat) {a : α} {b : β}
    (hab : R a b) : Option.Rel T (iterate f bound a) (iterate g bound b) := by
  induction bound generalizing a b with
  | zero => exact .none
  | succ bound ih =>
    have hround := hfg a b hab
    rw [iterate, iterate]
    cases hf : f a with
    | none =>
      rw [hf] at hround
      cases hg : g b with
      | none => exact .none
      | some _ => rw [hg] at hround; cases hround
    | some r =>
      rw [hf] at hround
      obtain ⟨q, hg, hrq⟩ := optionRel_left hround
      rw [hg]
      cases hrq with
      | again h => exact ih h
      | done h => exact .some h

end WhileLang
