import WhileLang.Proofs.Decimal
import WhileLang.Proofs.Emission
import WhileLang.Proofs.FirstLines

namespace WhileLang

theorem oneLine_digits (n : Nat) : Text.OneLine n.repr := by
  intro h
  exact absurd (isDigit_of_mem_digits h) (by decide)

theorem oneLine_decimal (n : Int64) : Text.OneLine (decimal n) := by
  obtain ⟨k, h | h⟩ := decimal_eq n
  · rw [Text.OneLine, h]
    exact oneLine_digits k
  · rw [Text.OneLine, h, List.mem_cons, not_or]
    exact ⟨by decide, oneLine_digits k⟩

theorem oneLine_boolText (b : Bool) : Text.OneLine (boolText b) := by
  cases b <;> decide

theorem BinOp.oneLine_symbol (op : BinOp) : Text.OneLine op.symbol := by
  cases op <;> decide

theorem Expr.oneLine_text {e : Expr} (h : ∀ x ∈ e.names, Text.OneLine x) : Text.OneLine e.text := by
  have hopen : Text.OneLine "(" := by decide
  have hbang : Text.OneLine "(!" := by decide
  have hclose : Text.OneLine ")" := by decide
  induction e with
  | num n => exact oneLine_decimal n
  | bool b => exact oneLine_boolText b
  | var x => exact h x List.mem_cons_self
  | not e ih => exact (hbang.append (ih h)).append hclose
  | group e ih => exact (hopen.append (ih h)).append hclose
  | binary op l r ihl ihr =>
    have hl := ihl fun x hx => h x (List.mem_append_left _ hx)
    have hr := ihr fun x hx => h x (List.mem_append_right _ hx)
    exact (((hopen.append hl).append op.oneLine_symbol).append hr).append hclose

namespace Stmt

theorem names_subset_of_mem_nodes {s t : Stmt} (h : t ∈ s.nodes) : t.names ⊆ s.names := by
  induction s with
  | seq a b iha ihb =>
    rcases List.mem_cons.1 h with rfl | h
    · exact List.Subset.refl _
    · rcases List.mem_append.1 h with h | h
      · exact List.subset_append_of_subset_left _ (iha h)
      · exact List.subset_append_of_subset_right _ (ihb h)
  | declare x e => exact List.mem_singleton.1 h ▸ List.Subset.refl _
  | assign x e => exact List.mem_singleton.1 h ▸ List.Subset.refl _
  | whileDo c body ih =>
    rcases List.mem_cons.1 h with rfl | h
    · exact List.Subset.refl _
    · exact List.subset_append_of_subset_right _ (ih h)
  | ifElse c a b iha ihb =>
    rcases List.mem_cons.1 h with rfl | h
    · exact List.Subset.refl _
    · rcases List.mem_append.1 h with h | h
      · exact List.subset_append_of_subset_left _ (List.subset_append_of_subset_right _ (iha h))
      · exact List.subset_append_of_subset_right _ (ihb h)
  | print e => exact List.mem_singleton.1 h ▸ List.Subset.refl _
  | block s ih =>
    rcases List.mem_cons.1 h with rfl | h
    · exact List.Subset.refl _
    · exact ih h

theorem oneLine_text_assign {x : String} {e : Expr}
    (h : ∀ y ∈ (assign x e).names, Text.OneLine y) : Text.OneLine (assign x e).text := by
  have hequals : Text.OneLine " = " := by decide
  have he := Expr.oneLine_text fun y hy => h y (List.mem_cons_of_mem x hy)
  exact ((h x List.mem_cons_self).append hequals).append he

end Stmt

namespace Diagnostic

theorem FoundIn.oneLine_snippet {s : Stmt} {d : Diagnostic} (h : d.FoundIn s.nodes)
    (hnames : ∀ x ∈ s.names, Text.OneLine x) : Text.OneLine d.snippet := by
  have hnode : ∀ t ∈ s.nodes, ∀ x ∈ t.names, Text.OneLine x :=
    fun t ht x hx => hnames x (Stmt.names_subset_of_mem_nodes ht hx)
  cases h with
  | undeclared h => exact Stmt.oneLine_text_assign (hnode _ h)
  | kindMismatch h => exact Stmt.oneLine_text_assign (hnode _ h)
  | ifElse h =>
    have hif : Text.OneLine "if " := by decide
    apply hif.append
    apply Expr.oneLine_text
    intro x hx
    exact hnode _ h x (List.mem_append_left _ (List.mem_append_left _ hx))
  | whileDo h =>
    have hwhile : Text.OneLine "while " := by decide
    apply hwhile.append
    apply Expr.oneLine_text
    intro x hx
    exact hnode _ h x (List.mem_append_left _ hx)

theorem text_of_snippet_ne {d : Diagnostic} (h : d.snippet ≠ "") :
    d.text = d.header ++ "\n-> " ++ Text.firstLine d.snippet := by
  apply if_neg
  rw [String.isEmpty_iff]
  exact h

theorem text_of_emits {s : Stmt} {env : Store} {d : Diagnostic}
    (hnames : ∀ x ∈ s.names, Text.OneLine x) (h : s.Emits env (.diagnostic d)) :
    d.text = d.header ++ "\n-> " ++ d.snippet := by
  have hfound := h.foundIn d rfl
  rw [text_of_snippet_ne hfound.snippet_ne,
    Text.firstLine_of_oneLine (hfound.oneLine_snippet hnames)]

/-- Below its header a diagnostic shows the first line of its snippet, if there is one: the longest
prefix without a line feed, less a carriage return between that and the first line feed. What a run
reports is shown whole, where no name has a line feed in it, whether the run ends or not. -/
theorem text_shows_firstLine :
    (∀ d : Diagnostic, d.snippet = "" → d.text = d.header) ∧
    (∀ d : Diagnostic, d.snippet ≠ "" → ∃ line p, d.text = d.header ++ "\n-> " ++ line ∧
      (Text.lines d.snippet).head? = some line ∧ Text.IsLongestRun p d.snippet.toList ∧
      (∀ u, p = u ++ ['\r'] → p ++ ['\n'] <+: d.snippet.toList → line.toList = u) ∧
      (¬ (p.getLast? = some '\r' ∧ p ++ ['\n'] <+: d.snippet.toList) → line.toList = p)) ∧
    ∀ (s : Stmt) (env : Store), (∀ x ∈ s.names, '\n' ∉ x.toList) →
      (∀ d, s.Emits env (.diagnostic d) → d.text = d.header ++ "\n-> " ++ d.snippet) ∧
      ∀ es env', s.Leaves env es env' → ∀ d, .diagnostic d ∈ es →
        d.text = d.header ++ "\n-> " ++ d.snippet := by
  refine ⟨?_, ?_, ?_⟩
  · intro d h
    rw [text, h]
    rfl
  · intro d h
    obtain ⟨p, hrun, hreturn, hplain⟩ := Text.exists_longestRun d.snippet
    exact ⟨_, p, text_of_snippet_ne h, Text.head?_lines h, hrun, hreturn, hplain⟩
  · intro s env hnames
    refine ⟨fun d hd => text_of_emits hnames hd, ?_⟩
    intro es env' h d hd
    exact text_of_emits hnames (h.emits _ hd)

/-- Carriage returns stay, but for the one right before the first line feed. A variable may be named
after one, and after any other character that ends no line. The loop never ends. -/
theorem text_shows_firstLine_carriageReturns :
    let d : Diagnostic := ⟨.emptySequence, "a\rb\r\r\nc"⟩
    let s : Stmt := .assign "x\r\u2028" (.num 1)
    let e : Diagnostic := ⟨.undeclared "x\r\u2028", s.text⟩
    let loop : Stmt := .whileDo (.bool true) s
    (∃ line p, d.text = d.header ++ "\n-> " ++ line ∧
      (Text.lines d.snippet).head? = some line ∧ Text.IsLongestRun p d.snippet.toList ∧
      (∀ u, p = u ++ ['\r'] → p ++ ['\n'] <+: d.snippet.toList → line.toList = u) ∧
      (¬ (p.getLast? = some '\r' ∧ p ++ ['\n'] <+: d.snippet.toList) → line.toList = p)) ∧
      d.text = "Error: EmptySequence\n-> a\rb\r" ∧
      (∀ x ∈ loop.names, '\n' ∉ x.toList) ∧ loop.Emits .empty (.diagnostic e) ∧
      s.Leaves .empty [.diagnostic e] .empty ∧
      e.text = e.header ++ "\n-> " ++ "x\r\u2028 = 1" := by
  intro d s e loop
  obtain ⟨-, hline, hrun⟩ := text_shows_firstLine
  have hnames : ∀ x ∈ loop.names, '\n' ∉ x.toList := by decide
  have hemits : loop.Emits .empty (.diagnostic e) := .body .entry rfl (.assign rfl)
  have hleaves : s.Leaves .empty [.diagnostic e] .empty := ⟨0, rfl⟩
  exact ⟨hline d (by decide), by decide, hnames, hemits, hleaves, (hrun loop _ hnames).1 e hemits⟩

end Diagnostic

end WhileLang
