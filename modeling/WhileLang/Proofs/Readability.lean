import WhileLang.Proofs.ReadBack
import WhileLang.Stmt.Shape

namespace WhileLang

namespace Reader

/-- What follows a statement neither continues its last word nor starts another statement. -/
def Ends (r : List Char) : Prop :=
  Closed r ∧ expect ";\n" r = none

/-- The reader returns a statement that was printed. -/
def Reads (n : Nat) (s : Stmt) : Prop :=
  ∀ r, Ends r → stmt n (s.text.toList ++ r) = some (s, r)

theorem ends_nil : Ends [] :=
  ⟨closed_nil, rfl⟩

theorem ends_newline (r : List Char) : Ends ('\n' :: r) :=
  ⟨closed_cons rfl r, rfl⟩

theorem closed_braces (b : String) (r : List Char) : Closed ((braces b).toList ++ r) := by
  have h : (braces b).toList ++ r = '\x7b' :: ('\n' :: (b ++ "\n\x7d").toList ++ r) := by
    simp [braces]
  rw [h]
  exact closed_cons rfl _

theorem body_braces {n : Nat} {s : Stmt} (h : Reads n s) (r : List Char) :
    body (stmt n) ((braces s.text).toList ++ r) = some (s, r) := by
  have hb : (braces s.text).toList ++ r =
      "\x7b\n".toList ++ (s.text.toList ++ ("\n\x7d".toList ++ r)) := by
    simp [braces]
  have hs := h ("\n\x7d".toList ++ r) (ends_newline _)
  simp only [hb, body, expect_append, Option.bind_eq_bind, Option.bind_some, hs, Option.pure_def]

theorem line_word {w : String} {r : List Char} (e : List Char → Option (Expr × List Char))
    (s : List Char → Option (Stmt × List Char)) (hw : w.toList.all isWordChar = true)
    (hr : Closed r) : line e s (w.toList ++ r) = afterWord e s w r := by
  rw [line, takeWhile_append hw hr, dropWhile_append hw hr, String.ofList_toList]

theorem line_name {x : String} {r : List Char} (e : List Char → Option (Expr × List Char))
    (s : List Char → Option (Stmt × List Char)) (hx : IsName x) (hr : Closed r) :
    line e s (x.toList ++ r) = binding e x r := by
  have hwhile : x ≠ "while" := hx.ne_of_mem (by decide)
  have hif : x ≠ "if" := hx.ne_of_mem (by decide)
  have hprint : x ≠ "print" := hx.ne_of_mem (by decide)
  rw [line_word e s hx.isWord.2 hr, afterWord, if_neg hx.ne_empty, if_neg hwhile, if_neg hif,
    if_neg hprint]

section Line

variable {x : String} {e : Expr} {s t : Stmt} {n : Nat} {cs ds r : List Char}

theorem line_declare (hx : IsName x) (he : expr n cs = some (e, r)) :
    line (expr n) (stmt n) (x.toList ++ (" := ".toList ++ cs)) = some (.declare x e, r) := by
  have hclosed : Closed (" := ".toList ++ cs) := closed_cons rfl _
  rw [line_name _ _ hx hclosed]
  simp only [binding, expect_append, Option.bind_eq_bind, Option.bind_some, he, Option.pure_def]

theorem line_assign (hx : IsName x) (he : expr n cs = some (e, r)) :
    line (expr n) (stmt n) (x.toList ++ (" = ".toList ++ cs)) = some (.assign x e, r) := by
  have hclosed : Closed (" = ".toList ++ cs) := closed_cons rfl _
  have hdeclare : expect " := " (" = ".toList ++ cs) = none := rfl
  rw [line_name _ _ hx hclosed]
  simp only [binding, hdeclare, expect_append, Option.bind_eq_bind, Option.bind_some, he,
    Option.pure_def]

theorem line_while (he : expr n cs = some (e, (braces s.text).toList ++ r)) (hs : Reads n s) :
    line (expr n) (stmt n) ("while".toList ++ (" ".toList ++ cs)) = some (.whileDo e s, r) := by
  have hclosed : Closed (" ".toList ++ cs) := closed_cons rfl _
  rw [line_word _ _ rfl hclosed, afterWord, if_neg (by decide), if_pos rfl]
  simp only [expect_append, Option.bind_eq_bind, Option.bind_some, he, body_braces hs,
    Option.pure_def]

theorem line_if
    (he : expr n cs = some (e,
      (braces s.text).toList ++ (" else ".toList ++ ((braces t.text).toList ++ r))))
    (hs : Reads n s) (ht : Reads n t) :
    line (expr n) (stmt n) ("if".toList ++ (" ".toList ++ cs)) = some (.ifElse e s t, r) := by
  have hclosed : Closed (" ".toList ++ cs) := closed_cons rfl _
  rw [line_word _ _ rfl hclosed, afterWord, if_neg (by decide), if_neg (by decide),
    if_pos rfl]
  simp only [expect_append, Option.bind_eq_bind, Option.bind_some, he, body_braces hs,
    body_braces ht, Option.pure_def]

theorem line_print (he : expr n cs = some (e, r)) :
    line (expr n) (stmt n) ("print".toList ++ (" ".toList ++ cs)) = some (.print e, r) := by
  have hclosed : Closed (" ".toList ++ cs) := closed_cons rfl _
  rw [line_word _ _ rfl hclosed, afterWord, if_neg (by decide), if_neg (by decide),
    if_neg (by decide), if_pos rfl]
  simp only [expect_append, Option.bind_eq_bind, Option.bind_some, he, Option.pure_def]

theorem line_block (hs : Reads n s) :
    line (expr n) (stmt n) ((braces s.text).toList ++ r) = some (.block s, r) := by
  have hword := line_word (w := "") (expr n) (stmt n) rfl (closed_braces s.text r)
  have hline : line (expr n) (stmt n) ((braces s.text).toList ++ r) =
      afterWord (expr n) (stmt n) "" ((braces s.text).toList ++ r) := hword
  rw [hline, afterWord, if_pos rfl]
  simp only [Option.bind_eq_bind, Option.bind_some, body_braces hs, Option.pure_def]

theorem stmt_of_line (hs : line (expr n) (stmt n) cs = some (s, r)) (hr : expect ";\n" r = none) :
    stmt (n + 1) cs = some (s, r) := by
  simp only [stmt, hs, Option.bind_eq_bind, Option.bind_some, hr, Option.pure_def]

theorem stmt_seq (hs : line (expr n) (stmt n) cs = some (s, ";\n".toList ++ ds))
    (ht : stmt n ds = some (t, r)) : stmt (n + 1) cs = some (.seq s t, r) := by
  simp only [stmt, hs, Option.bind_eq_bind, Option.bind_some, expect_append, ht, Option.pure_def]

end Line

end Reader

namespace Stmt

def depth : Stmt → Nat
  | seq s t => max s.depth t.depth + 1
  | declare _ e => e.depth + 1
  | assign _ e => e.depth + 1
  | whileDo c body => max c.depth body.depth + 1
  | ifElse c s t => max c.depth (max s.depth t.depth) + 1
  | print e => e.depth + 1
  | block s => s.depth + 1

theorem names_append (s t : Stmt) : (s.append t).names = s.names ++ t.names := by
  induction s with
  | seq a b _ ih => simp only [append, names, ih, List.append_assoc]
  | declare x e => rfl
  | assign x e => rfl
  | whileDo c body => rfl
  | ifElse c s t => rfl
  | print e => rfl
  | block s => rfl

theorem names_renest (s : Stmt) : s.renest.names = s.names := by
  induction s with
  | seq s t ihs iht => simp only [renest, names_append, names, ihs, iht]
  | declare x e => rfl
  | assign x e => rfl
  | whileDo c body ih => simp only [renest, names, ih]
  | ifElse c s t ihs iht => simp only [renest, names, ihs, iht]
  | print e => rfl
  | block s ih => exact ih

theorem read_line {s : Stmt} {n : Nat} {r : List Char} (hs : s.IsLine) (hnest : s.RightNested)
    (hnames : ∀ x ∈ s.names, IsName x) (hn : s.depth ≤ n) (hr : Reader.Closed r)
    (ih : ∀ t : Stmt, t.RightNested → (∀ x ∈ t.names, IsName x) → t.depth < n →
      Reader.Reads n t) :
    Reader.line (Reader.expr n) (Reader.stmt n) (s.text.toList ++ r) = some (s, r) := by
  cases s with
  | seq s t => cases hs
  | declare x e =>
    have hx : IsName x := hnames x List.mem_cons_self
    have he := Expr.read_text (fun y hy => hnames y (List.mem_cons_of_mem x hy)) hn hr
    have ht : (declare x e).text.toList ++ r =
        x.toList ++ (" := ".toList ++ (e.text.toList ++ r)) := by
      simp [text]
    rw [ht]
    exact Reader.line_declare hx he
  | assign x e =>
    have hx : IsName x := hnames x List.mem_cons_self
    have he := Expr.read_text (fun y hy => hnames y (List.mem_cons_of_mem x hy)) hn hr
    have ht : (assign x e).text.toList ++ r =
        x.toList ++ (" = ".toList ++ (e.text.toList ++ r)) := by
      simp [text]
    rw [ht]
    exact Reader.line_assign hx he
  | whileDo c body =>
    obtain ⟨hc, hb⟩ := Nat.max_lt.1 hn
    have hbody := ih body hnest (fun x hx => hnames x (List.mem_append_right _ hx)) hb
    have he := Expr.read_text (fun x hx => hnames x (List.mem_append_left _ hx)) hc
      (Reader.closed_braces body.text r)
    have ht : (whileDo c body).text.toList ++ r =
        "while".toList ++ (" ".toList ++ (c.text.toList ++ ((braces body.text).toList ++ r))) := by
      simp [text]
    rw [ht]
    exact Reader.line_while he hbody
  | ifElse c s t =>
    obtain ⟨hc, hst⟩ := Nat.max_lt.1 hn
    obtain ⟨hsn, htn⟩ := Nat.max_lt.1 hst
    have hsr := ih s hnest.1
      (fun x hx => hnames x (List.mem_append_left _ (List.mem_append_right _ hx))) hsn
    have htr := ih t hnest.2 (fun x hx => hnames x (List.mem_append_right _ hx)) htn
    have he := Expr.read_text
      (fun x hx => hnames x (List.mem_append_left _ (List.mem_append_left _ hx))) hc
      (Reader.closed_braces s.text (" else ".toList ++ ((braces t.text).toList ++ r)))
    have ht : (ifElse c s t).text.toList ++ r = "if".toList ++ (" ".toList ++ (c.text.toList ++
        ((braces s.text).toList ++ (" else ".toList ++ ((braces t.text).toList ++ r))))) := by
      simp [text]
    rw [ht]
    exact Reader.line_if he hsr htr
  | print e =>
    have he := Expr.read_text hnames hn hr
    have ht : (print e).text.toList ++ r =
        "print".toList ++ (" ".toList ++ (e.text.toList ++ r)) := by
      simp [text]
    rw [ht]
    exact Reader.line_print he
  | block s =>
    have hsr := ih s hnest hnames hn
    exact Reader.line_block hsr

theorem isLine_or_seq (s : Stmt) : s.IsLine ∨ ∃ t u, s = seq t u := by
  cases s with
  | seq t u => exact Or.inr ⟨t, u, rfl⟩
  | declare x e => exact Or.inl trivial
  | assign x e => exact Or.inl trivial
  | whileDo c body => exact Or.inl trivial
  | ifElse c s t => exact Or.inl trivial
  | print e => exact Or.inl trivial
  | block s => exact Or.inl trivial

theorem reads_text {s : Stmt} {n : Nat} (hnest : s.RightNested)
    (hnames : ∀ x ∈ s.names, IsName x) (hn : s.depth < n) : Reader.Reads n s := by
  -- on the depth and not on the statement, for the bodies of a line are read with those of the rest
  induction n generalizing s with
  | zero => cases hn
  | succ n ih =>
    intro r hr
    have hsub : ∀ t : Stmt, t.RightNested → (∀ x ∈ t.names, IsName x) → t.depth < n →
        Reader.Reads n t := fun t ht hx hd => ih ht hx hd
    rcases s.isLine_or_seq with hs | ⟨t, u, rfl⟩
    · have hline := read_line hs hnest hnames (Nat.le_of_lt_succ hn) hr.1 hsub
      exact Reader.stmt_of_line hline hr.2
    · obtain ⟨ht, htnest, hunest⟩ := hnest
      obtain ⟨htn, hun⟩ := Nat.max_lt.1 (Nat.lt_of_succ_lt_succ hn)
      have htx : ∀ x ∈ t.names, IsName x := fun x hx => hnames x (List.mem_append_left _ hx)
      have hux : ∀ x ∈ u.names, IsName x := fun x hx => hnames x (List.mem_append_right _ hx)
      have hc : Reader.Closed (";\n".toList ++ (u.text.toList ++ r)) := Reader.closed_cons rfl _
      have htext : (seq t u).text.toList ++ r =
          t.text.toList ++ (";\n".toList ++ (u.text.toList ++ r)) := by
        simp [text]
      rw [htext]
      apply Reader.stmt_seq
      · exact read_line ht htnest htx (Nat.le_of_lt htn) hc hsub
      · exact ih hunest hux hun r hr

/-- Two statements that nest to the right and have one text are the same. -/
theorem eq_of_text_eq {s t : Stmt} (hs : s.RightNested) (ht : t.RightNested)
    (hsn : ∀ x ∈ s.names, IsName x) (htn : ∀ x ∈ t.names, IsName x) (h : s.text = t.text) :
    s = t := by
  have hread : ∀ u : Stmt, u.RightNested → (∀ x ∈ u.names, IsName x) →
      u.depth < max s.depth t.depth + 1 →
      Reader.stmt (max s.depth t.depth + 1) u.text.toList = some (u, []) := by
    intro u hu hx hd
    simpa using reads_text hu hx hd [] Reader.ends_nil
  have hsr := hread s hs hsn (Nat.lt_succ_of_le (Nat.le_max_left _ _))
  have htr := hread t ht htn (Nat.lt_succ_of_le (Nat.le_max_right _ _))
  rw [h, htr] at hsr
  cases hsr
  rfl

/-- The text loses nothing but how sequences nest, and of an expression it loses nothing. -/
theorem text_eq_iff_renest_eq :
    (∀ s t : Stmt, (∀ x ∈ s.names, IsName x) → (∀ x ∈ t.names, IsName x) →
      (s.text = t.text ↔ s.renest = t.renest)) ∧
    (∀ d e : Expr, (∀ x ∈ d.names, IsName x) → (∀ x ∈ e.names, IsName x) →
      (d.text = e.text ↔ d = e)) := by
  constructor
  · intro s t hs ht
    constructor
    · intro h
      have hrenest : s.renest.text = t.renest.text := by rw [text_renest, text_renest, h]
      apply eq_of_text_eq (rightNested_renest s) (rightNested_renest t) _ _ hrenest
      · rwa [names_renest]
      · rwa [names_renest]
    · intro h
      rw [← text_renest s, ← text_renest t, h]
  · intro d e hd he
    constructor
    · intro h
      exact Expr.eq_of_text_eq hd he h
    · intro h
      rw [h]

theorem text_eq_iff_renest_eq_leftNested :
    (seq (seq (declare "x" (.num (-1))) (print (.var "x"))) (assign "x" (.num 2))).text =
      (seq (declare "x" (.num (-1))) (seq (print (.var "x")) (assign "x" (.num 2)))).text ∧
    (Expr.group (.not (.var "x"))).text ≠ (Expr.not (.group (.var "x"))).text := by
  constructor
  · exact (text_eq_iff_renest_eq.1 _ _ (by decide) (by decide)).2 rfl
  · intro h
    have heq := (text_eq_iff_renest_eq.2 _ _ (by decide) (by decide)).1 h
    cases heq

end Stmt

end WhileLang
