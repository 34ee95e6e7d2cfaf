import Mathlib.Data.List.Basic
import WhileLang.Proofs.Decimal
import WhileLang.Proofs.Reader
import WhileLang.Stmt.Names

namespace WhileLang

namespace Reader

/-- What follows a word is no part of it. -/
def Closed (r : List Char) : Prop :=
  ∀ c ∈ r.head?, isWordChar c = false

def IsWord (w : List Char) : Prop :=
  w ≠ [] ∧ w.all isWordChar = true

theorem closed_nil : Closed [] := by
  intro c h
  cases h

theorem closed_cons {c : Char} (h : isWordChar c = false) (r : List Char) : Closed (c :: r) := by
  intro d hd
  cases hd
  exact h

theorem takeWhile_append {w r : List Char} (hw : w.all isWordChar = true) (hr : Closed r) :
    (w ++ r).takeWhile isWordChar = w := by
  rw [List.takeWhile_append_of_pos (List.all_eq_true.1 hw)]
  cases r with
  | nil => simp
  | cons c r => simp [hr c rfl]

theorem dropWhile_append {w r : List Char} (hw : w.all isWordChar = true) (hr : Closed r) :
    (w ++ r).dropWhile isWordChar = r := by
  rw [List.dropWhile_append_of_pos (List.all_eq_true.1 hw)]
  cases r with
  | nil => rfl
  | cons c r => simp [hr c rfl]

theorem IsWord.append_ne {w : List Char} {c : Char} (hw : IsWord w) (hc : isWordChar c = false)
    (r cs : List Char) : w ++ r ≠ c :: cs := by
  intro h
  obtain ⟨d, ws, rfl⟩ := List.exists_cons_of_ne_nil hw.1
  have hd := List.all_eq_true.1 hw.2 d List.mem_cons_self
  rw [(List.cons.inj h).1, hc] at hd
  cases hd

theorem expect_append (p : String) (cs : List Char) : expect p (p.toList ++ cs) = some cs :=
  List.isPrefixOf?_eq_some_iff_append_eq.2 rfl

theorem operator_symbol (op : BinOp) (cs : List Char) :
    operator (op.symbol.toList ++ cs) = some (op, cs) := by
  cases op <;> rfl

theorem expect_close_symbol (op : BinOp) (cs : List Char) :
    expect ")" (op.symbol.toList ++ cs) = none := by
  cases op <;> rfl

theorem closed_symbol (op : BinOp) (cs : List Char) : Closed (op.symbol.toList ++ cs) := by
  cases op <;> exact closed_cons rfl _

theorem isWordChar_of_isDigit {c : Char} (h : c.isDigit) : isWordChar c = true := by
  simp [isWordChar, Char.isAlphanum, h]

theorem isWord_digits (k : Nat) : IsWord k.repr.toList := by
  constructor
  · exact digits_ne_nil k
  · apply List.all_eq_true.2
    intro c hc
    exact isWordChar_of_isDigit (isDigit_of_mem_digits hc)

theorem isWord_decimal (n : Int64) : IsWord (decimal n).toList := by
  obtain ⟨k, h | h⟩ := decimal_eq n
  · rw [h]
    exact isWord_digits k
  · rw [h]
    exact ⟨List.cons_ne_nil _ _, (isWord_digits k).2⟩

theorem isWord_boolText (b : Bool) : IsWord (boolText b).toList := by
  cases b with
  | true => exact ⟨List.cons_ne_nil _ _, rfl⟩
  | false => exact ⟨List.cons_ne_nil _ _, rfl⟩

theorem atom_decimal (n : Int64) : atom (decimal n).toList = some (.num n) := by
  obtain ⟨c, cs, h, hc⟩ := decimal_head n
  have hw : String.ofList (c :: cs) = decimal n := by rw [← h, String.ofList_toList]
  have hn : (decimal n).toInt? = some n.toInt := Int.toInt?_repr _
  rw [h, atom]
  simp only [hw, if_pos hc, hn, Option.map_some, Int64.ofInt_toInt]

theorem atom_boolText (b : Bool) : atom (boolText b).toList = some (.bool b) := by
  cases b <;> rfl

end Reader

namespace IsName

theorem toList_eq_cons {x : String} (h : IsName x) :
    ∃ c cs, x.toList = c :: cs ∧ startsName c = true := by
  obtain ⟨c, hc, hstart⟩ := (Option.any_eq_true _ _).1 h.head
  obtain ⟨cs, hx⟩ := List.head?_eq_some_iff.1 hc
  exact ⟨c, cs, hx, hstart⟩

theorem isWord {x : String} (h : IsName x) : Reader.IsWord x.toList := by
  obtain ⟨c, cs, hx, _⟩ := h.toList_eq_cons
  constructor
  · rw [hx]
    exact List.cons_ne_nil _ _
  · apply List.all_eq_true.2
    intro d hd
    have hname := List.all_eq_true.1 h.chars d hd
    simp only [continuesName, Bool.or_eq_true, beq_iff_eq] at hname
    simp only [Reader.isWordChar, Bool.or_eq_true, decide_eq_true_eq]
    exact Or.inl hname

theorem ne_empty {x : String} (h : IsName x) : x ≠ "" := by
  intro hx
  subst hx
  exact h.isWord.1 rfl

theorem ne_of_mem {x k : String} (h : IsName x) (hk : k ∈ keywords) : x ≠ k := by
  intro hx
  subst hx
  exact h.not_keyword hk

theorem not_number_of_startsName {c : Char} (h : startsName c = true) :
    ¬ (c.isDigit ∨ c = '-') := by
  simp only [startsName, Bool.or_eq_true, beq_iff_eq] at h
  rcases h with h | rfl
  · rintro (hd | rfl)
    · exact UInt32.lt_irrefl _ (digit_lt_letter hd h)
    · exact absurd h (by decide)
  · decide

theorem atom {x : String} (h : IsName x) : Reader.atom x.toList = some (.var x) := by
  obtain ⟨c, cs, hx, hstart⟩ := h.toList_eq_cons
  have hc := not_number_of_startsName hstart
  have hw : String.ofList (c :: cs) = x := by rw [← hx, String.ofList_toList]
  rw [hx, Reader.atom]
  simp only [hw, if_neg hc, if_neg (h.ne_of_mem (k := "true") (by decide)),
    if_neg (h.ne_of_mem (k := "false") (by decide))]

end IsName

namespace Reader

theorem expr_word {w r : List Char} {e : Expr} (n : Nat) (hw : IsWord w) (hr : Closed r)
    (he : atom w = some e) : expr (n + 1) (w ++ r) = some (e, r) := by
  have hopen : ∀ cs, w ++ r ≠ '(' :: cs := hw.append_ne rfl r
  rw [expr]
  · simp only [takeWhile_append hw.2 hr, dropWhile_append hw.2 hr, he]
    rfl
  · intro cs
    exact hopen _
  · exact hopen

theorem expr_not {e : Expr} {n : Nat} {cs r : List Char}
    (he : expr n cs = some (e, ')' :: r)) : expr (n + 1) ('(' :: '!' :: cs) = some (.not e, r) := by
  rw [expr, he]
  rfl

theorem expr_group {e : Expr} {n : Nat} {cs r : List Char} (hcs : ∀ ds, cs ≠ '!' :: ds)
    (he : expr n cs = some (e, ')' :: r)) : expr (n + 1) ('(' :: cs) = some (.group e, r) := by
  rw [expr, he]
  · rfl
  · exact hcs

theorem expr_binary {op : BinOp} {l m : Expr} {n : Nat} {cs ds r : List Char}
    (hcs : ∀ ds, cs ≠ '!' :: ds) (hl : expr n cs = some (l, op.symbol.toList ++ ds))
    (hm : expr n ds = some (m, ')' :: r)) :
    expr (n + 1) ('(' :: cs) = some (.binary op l m, r) := by
  rw [expr, hl]
  · simp only [Option.bind_eq_bind, Option.bind_some, expect_close_symbol, operator_symbol, hm]
    rfl
  · exact hcs

end Reader

namespace Expr

def depth : Expr → Nat
  | num _ => 0
  | bool _ => 0
  | var _ => 0
  | not e => e.depth + 1
  | group e => e.depth + 1
  | binary _ l r => max l.depth r.depth + 1

theorem text_ne_bang {e : Expr} (h : ∀ x ∈ e.names, IsName x) (r cs : List Char) :
    e.text.toList ++ r ≠ '!' :: cs := by
  cases e with
  | num k => exact (Reader.isWord_decimal k).append_ne rfl r cs
  | bool b => exact (Reader.isWord_boolText b).append_ne rfl r cs
  | var x => exact (h x List.mem_cons_self).isWord.append_ne rfl r cs
  | not e => simp [text]
  | group e => simp [text]
  | binary op l m => simp [text]

theorem read_text {e : Expr} {n : Nat} {r : List Char} (h : ∀ x ∈ e.names, IsName x)
    (hn : e.depth < n) (hr : Reader.Closed r) :
    Reader.expr n (e.text.toList ++ r) = some (e, r) := by
  induction n generalizing e r with
  | zero => cases hn
  | succ n ih =>
    have hc : Reader.Closed (')' :: r) := Reader.closed_cons rfl r
    cases e with
    | num k => exact Reader.expr_word n (Reader.isWord_decimal k) hr (Reader.atom_decimal k)
    | bool b => exact Reader.expr_word n (Reader.isWord_boolText b) hr (Reader.atom_boolText b)
    | var x =>
      have hx := h x List.mem_cons_self
      exact Reader.expr_word n hx.isWord hr hx.atom
    | not e =>
      have he : e.depth < n := Nat.lt_of_succ_lt_succ hn
      have ht : (not e).text.toList ++ r = '(' :: '!' :: (e.text.toList ++ ')' :: r) := by
        simp [text]
      rw [ht]
      exact Reader.expr_not (ih h he hc)
    | group e =>
      have he : e.depth < n := Nat.lt_of_succ_lt_succ hn
      have ht : (group e).text.toList ++ r = '(' :: (e.text.toList ++ ')' :: r) := by
        simp [text]
      rw [ht]
      exact Reader.expr_group (text_ne_bang (e := e) h _) (ih h he hc)
    | binary op l m =>
      have hl : ∀ x ∈ l.names, IsName x := fun x hx => h x (List.mem_append_left _ hx)
      have hm : ∀ x ∈ m.names, IsName x := fun x hx => h x (List.mem_append_right _ hx)
      obtain ⟨hln, hmn⟩ := Nat.max_lt.1 (Nat.lt_of_succ_lt_succ hn)
      have ht : (binary op l m).text.toList ++ r =
          '(' :: (l.text.toList ++ (op.symbol.toList ++ (m.text.toList ++ ')' :: r))) := by
        simp [text]
      rw [ht]
      apply Reader.expr_binary (text_ne_bang hl _)
      · exact ih hl hln (Reader.closed_symbol op _)
      · exact ih hm hmn hc

theorem eq_of_text_eq {d e : Expr} (hd : ∀ x ∈ d.names, IsName x) (he : ∀ x ∈ e.names, IsName x)
    (h : d.text = e.text) : d = e := by
  have hdn : d.depth < max d.depth e.depth + 1 := Nat.lt_succ_of_le (Nat.le_max_left _ _)
  have hen : e.depth < max d.depth e.depth + 1 := Nat.lt_succ_of_le (Nat.le_max_right _ _)
  have hdr := read_text hd hdn Reader.closed_nil
  have her := read_text he hen Reader.closed_nil
  rw [h, her] at hdr
  cases hdr
  rfl

end Expr

end WhileLang
