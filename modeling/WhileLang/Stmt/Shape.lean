import WhileLang.Expr.Eval
import WhileLang.Expr.Infer
import WhileLang.Stmt.Printer

namespace WhileLang

namespace Expr

/-- An expression without its written parentheses. -/
def ungroup : Expr → Expr
  | num n => num n
  | bool b => bool b
  | var x => var x
  | not e => not e.ungroup
  | group e => e.ungroup
  | binary op l r => binary op l.ungroup r.ungroup

theorem denote_ungroup (ρ : String → Value) (e : Expr) : e.ungroup.denote ρ = e.denote ρ := by
  induction e with
  | num n => rfl
  | bool b => rfl
  | var x => rfl
  | not e ih => exact congrArg Value.not ih
  | group e ih => exact ih
  | binary op l r ihl ihr => simp only [ungroup, denote, ihl, ihr]

@[simp] theorem eval_ungroup (s : Store) (e : Expr) : e.ungroup.eval s = e.eval s :=
  denote_ungroup _ e

@[simp] theorem infer_ungroup (Γ : Context) (e : Expr) : e.ungroup.infer Γ = e.infer Γ := by
  induction e with
  | num n => rfl
  | bool b => rfl
  | var x => rfl
  | not e ih => exact congrArg Ty.not ih
  | group e ih => exact ih
  | binary op l r ihl ihr => simp only [ungroup, infer, ihl, ihr]

end Expr

namespace Stmt

/-- The second statement after the last one of a sequence that nests to the right. -/
def append : Stmt → Stmt → Stmt
  | seq a b, t => seq a (b.append t)
  | s, t => seq s t

/-- Every sequence, also in bodies and blocks, nested to the right. -/
def renest : Stmt → Stmt
  | seq s t => s.renest.append t.renest
  | whileDo c body => whileDo c body.renest
  | ifElse c s t => ifElse c s.renest t.renest
  | block s => block s.renest
  | s => s

/-- A statement without what has no meaning: no written parentheses or braces, and every sequence
nested to the right. -/
def plain : Stmt → Stmt
  | seq s t => s.plain.append t.plain
  | declare x e => declare x e.ungroup
  | assign x e => assign x e.ungroup
  | whileDo c body => whileDo c.ungroup body.plain
  | ifElse c s t => ifElse c.ungroup s.plain t.plain
  | print e => print e.ungroup
  | block s => s.plain

/-- The statements that follow each other outside bodies. -/
def steps : Stmt → List Stmt
  | seq s t => s.steps ++ t.steps
  | block s => s.steps
  | s => [s]

def IsLine : Stmt → Prop
  | seq _ _ => False
  | _ => True

/-- Every sequence nests to the right, also in bodies and blocks. -/
def RightNested : Stmt → Prop
  | seq s t => s.IsLine ∧ s.RightNested ∧ t.RightNested
  | declare _ _ => True
  | assign _ _ => True
  | whileDo _ body => body.RightNested
  | ifElse _ s t => s.RightNested ∧ t.RightNested
  | print _ => True
  | block s => s.RightNested

theorem RightNested.append {s t : Stmt} (hs : s.RightNested) (ht : t.RightNested) :
    (s.append t).RightNested := by
  induction s with
  | seq a b _ ih => exact ⟨hs.1, hs.2.1, ih hs.2.2⟩
  | declare x e => exact ⟨trivial, hs, ht⟩
  | assign x e => exact ⟨trivial, hs, ht⟩
  | whileDo c body => exact ⟨trivial, hs, ht⟩
  | ifElse c s t => exact ⟨trivial, hs, ht⟩
  | print e => exact ⟨trivial, hs, ht⟩
  | block s => exact ⟨trivial, hs, ht⟩

theorem rightNested_renest (s : Stmt) : s.renest.RightNested := by
  induction s with
  | seq s t ihs iht => exact ihs.append iht
  | declare x e => trivial
  | assign x e => trivial
  | whileDo c body ih => exact ih
  | ifElse c s t ihs iht => exact ⟨ihs, iht⟩
  | print e => trivial
  | block s ih => exact ih

@[simp] theorem text_append (s t : Stmt) : (s.append t).text = (seq s t).text := by
  induction s generalizing t with
  | seq a b _ ih => simp only [append, text, ih, String.append_assoc]
  | declare x e => rfl
  | assign x e => rfl
  | whileDo c body => rfl
  | ifElse c s t => rfl
  | print e => rfl
  | block s => rfl

theorem text_renest (s : Stmt) : s.renest.text = s.text := by
  induction s with
  | seq s t ihs iht => simp only [renest, text_append, text, ihs, iht]
  | declare x e => rfl
  | assign x e => rfl
  | whileDo c body ih => simp only [renest, text, ih]
  | ifElse c s t ihs iht => simp only [renest, text, ihs, iht]
  | print e => rfl
  | block s ih => simp only [renest, text, ih]

end Stmt

end WhileLang
