import WhileLang.Proofs.Rejection

namespace WhileLang

theorem Store.get?_of_value_ne {s : Store} {x : String} (h : s.value x ≠ .undefined) :
    (∃ n, s.get? x = some (.int n)) ∨ ∃ b, s.get? x = some (.bool b) := by
  rw [value] at h
  cases hx : s.get? x with
  | none =>
    rw [hx] at h
    exact absurd rfl h
  | some v => cases v with
    | int n => exact .inl ⟨n, rfl⟩
    | bool b => exact .inr ⟨b, rfl⟩
    | undefined =>
      rw [hx] at h
      exact absurd rfl h

namespace BinOp

variable {op : BinOp} {v w : Value}

theorem left_ne_undefined (h : op.apply v w ≠ .undefined) : v ≠ .undefined := by
  by_cases hd : op.Decides v
  · exact hd.hasType.ne_undefined
  · obtain ⟨_, _, hv, -, -⟩ := operands_of_defined hd h
    exact hv.ne_undefined

theorem right_ne_undefined (hd : ¬ op.Decides v) (h : op.apply v w ≠ .undefined) :
    w ≠ .undefined := by
  obtain ⟨_, _, -, hw, -⟩ := operands_of_defined hd h
  exact hw.ne_undefined

end BinOp

inductive Side where
  | left
  | right
  deriving DecidableEq

namespace Expr

/-- The operand on one side. A negation and a pair of parentheses have a left operand only. -/
def operand? : Expr → Side → Option Expr
  | not e, .left => some e
  | group e, .left => some e
  | binary _ l _, .left => some l
  | binary _ _ r, .right => some r
  | _, _ => none

/-- The expression at a place, which is the way down to it from the whole expression. -/
def at? (e : Expr) (place : List Side) : Option Expr :=
  place.foldlM operand? e

/-- A connective that its left operand decides. -/
def Decided (env : Store) : Expr → Prop
  | binary op l _ => op.Decides (l.eval env)
  | _ => False

/-- The place lies in the right operand of a connective that its left operand decides. -/
def Skips (env : Store) (e : Expr) (place : List Side) : Prop :=
  ∃ above below d, place = above ++ .right :: below ∧ e.at? above = some d ∧ d.Decided env

variable {env : Store} {e a d : Expr} {side : Side} {place : List Side}

theorem at?_cons (ha : e.operand? side = some a) (place : List Side) :
    e.at? (side :: place) = a.at? place := by
  rw [at?, List.foldlM_cons, ha]
  rfl

theorem not_skips_nil (env : Store) (e : Expr) : ¬ e.Skips env [] := by
  rintro ⟨above, below, d, hplace, -⟩
  exact List.append_ne_nil_of_right_ne_nil above (List.cons_ne_nil _ below) hplace.symm

theorem skips_cons_iff (ha : e.operand? side = some a) :
    e.Skips env (side :: place) ↔ side = .right ∧ e.Decided env ∨ a.Skips env place := by
  constructor
  · rintro ⟨above, below, d, hplace, hat, hd⟩
    cases above with
    | nil =>
      cases hplace
      cases hat
      exact .inl ⟨rfl, hd⟩
    | cons side' above =>
      obtain ⟨rfl, rfl⟩ := List.cons.inj hplace
      exact .inr ⟨above, below, d, rfl, (at?_cons ha above).symm.trans hat, hd⟩
  · rintro (⟨rfl, hd⟩ | ⟨above, below, d, rfl, hat, hd⟩)
    · exact ⟨[], place, e, rfl, rfl, hd⟩
    · exact ⟨side :: above, below, d, rfl, (at?_cons ha above).trans hat, hd⟩

/-- An expression that is not undefined has no undefined operand but a right one that it skips. -/
theorem operand_ne_undefined (h : e.eval env ≠ .undefined) (ha : e.operand? side = some a)
    (hs : ¬ (side = .right ∧ e.Decided env)) : a.eval env ≠ .undefined := by
  cases e with
  | num n => cases ha
  | bool b => cases ha
  | var x => cases ha
  | not e => cases side with
    | left =>
      cases ha
      intro he
      exact h (congrArg Value.not he)
    | right => cases ha
  | group e => cases side with
    | left =>
      cases ha
      exact h
    | right => cases ha
  | binary op l r => cases side with
    | left =>
      cases ha
      exact BinOp.left_ne_undefined h
    | right =>
      cases ha
      exact BinOp.right_ne_undefined (fun hd => hs ⟨rfl, hd⟩) h

theorem at?_ne_undefined (h : e.eval env ≠ .undefined) (hd : e.at? place = some d)
    (hs : ¬ e.Skips env place) : d.eval env ≠ .undefined := by
  induction place generalizing e with
  | nil =>
    cases hd
    exact h
  | cons side place ih =>
    obtain ⟨a, ha, hda⟩ := Option.bind_eq_some_iff.1 hd
    rw [skips_cons_iff ha, not_or] at hs
    exact ih (operand_ne_undefined h ha hs.1) hda hs.2

/-- In an expression that is not undefined nothing is, except where a connective skips its right
operand. The variables that are read anywhere else are bound to integers or truth values. -/
theorem defined_unless_skipped (h : e.eval env ≠ .undefined) (hd : e.at? place = some d)
    (hs : ¬ e.Skips env place) :
    d.eval env ≠ .undefined ∧ ∀ x, d = var x →
      (∃ n, env.get? x = some (.int n)) ∨ ∃ b, env.get? x = some (.bool b) := by
  have hdefined := at?_ne_undefined h hd hs
  refine ⟨hdefined, ?_⟩
  rintro x rfl
  exact Store.get?_of_value_ne hdefined

theorem defined_unless_skipped_disjunction :
    let env := (Store.empty.declare "x" (.int 3)).declare "b" (.bool false)
    let skips := binary .and (var "b") (binary .lt (var "u") (num 1))
    let e := not (binary .or (binary .lt (var "x") (num 3)) (group skips))
    e.eval env ≠ .undefined ∧
      (e.at? [.left, .right, .left, .left] = some (var "b") ∧
        ¬ e.Skips env [.left, .right, .left, .left] ∧ (var "b").eval env ≠ .undefined ∧
        ((∃ n, env.get? "b" = some (.int n)) ∨ ∃ b, env.get? "b" = some (.bool b))) ∧
      e.at? [.left, .right, .left, .right, .left] = some (var "u") ∧
        e.Skips env [.left, .right, .left, .right, .left] ∧ (var "u").eval env = .undefined := by
  intro env skips e
  have h : e.eval env ≠ .undefined := by decide +kernel
  have hat : e.at? [.left, .right, .left, .left] = some (var "b") := rfl
  have hs : ¬ e.Skips env [.left, .right, .left, .left] := by
    have hor : ¬ (binary .or (binary .lt (var "x") (num 3)) (group skips)).Decided env := by
      change ¬ BinOp.or.Decides ((binary .lt (var "x") (num 3)).eval env)
      decide +kernel
    rw [skips_cons_iff rfl, skips_cons_iff rfl, skips_cons_iff rfl, skips_cons_iff rfl]
    simp [hor, not_skips_nil]
  obtain ⟨hb, hbound⟩ := defined_unless_skipped h hat hs
  have hskip : e.Skips env [.left, .right, .left, .right, .left] :=
    ⟨[.left, .right, .left], [.left], skips, rfl, rfl, .inr ⟨rfl, by decide +kernel⟩⟩
  exact ⟨h, ⟨hat, hs, hb, hbound "b" rfl⟩, rfl, hskip, by decide +kernel⟩

end Expr

end WhileLang
