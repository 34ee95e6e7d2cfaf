namespace WhileLang

/-- What a round of a loop ends with. -/
inductive Round (α : Type) where
  | again (a : α)
  | done (a : α)

/-- Go round until a round is the last one. A loop that is not done after `bound` rounds has no
result. -/
def iterate {α : Type} (round : α → Option (Round α)) : Nat → α → Option α
  | 0, _ => none
  | bound + 1, a =>
    match round a with
    | some (.again b) => iterate round bound b
    | some (.done b) => some b
    | none => none

/-- More rounds than a program has time to go (the 62nd power of two). -/
def ampleBound : Nat :=
  0x4000000000000000

theorem iterate_mono {α : Type} {f g : α → Option (Round α)}
    (hfg : ∀ a r, f a = some r → g a = some r) {m n : Nat} (hmn : m ≤ n) {a b : α}
    (h : iterate f m a = some b) : iterate g n a = some b := by
  induction m generalizing n a with
  | zero => cases h
  | succ m ih =>
    cases n with
    | zero => cases hmn
    | succ n =>
      simp only [iterate] at h ⊢
      cases hr : f a with
      | none => simp [hr] at h
      | some r =>
        simp only [hr, hfg a r hr] at h ⊢
        cases r with
        | again c => exact ih (Nat.le_of_succ_le_succ hmn) h
        | done c => exact h

end WhileLang
