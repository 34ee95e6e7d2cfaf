import WhileLang.Text.FirstLine

namespace WhileLang.Text

/-- Cut a text behind every line feed. Behind one at its very end there is no further piece. -/
def pieces : List Char → List (List Char)
  | [] => []
  | c :: cs =>
    if c = '\n' then ['\n'] :: pieces cs
    else
      match pieces cs with
      | [] => [[c]]
      | p :: ps => (c :: p) :: ps

/-- A piece without the line feed at its end and without a carriage return right before that. -/
def dropEnd (piece : List Char) : List Char :=
  if piece.getLast? = some '\n' then dropReturn piece.dropLast else piece

/-- The lines of a text. A line feed ends a line, also the last one, and nothing else does. -/
def lines (s : String) : List String :=
  (pieces s.toList).map fun p => String.ofList (dropEnd p)

/-- No line feed. -/
def OneLine (s : String) : Prop :=
  '\n' ∉ s.toList

instance (s : String) : Decidable (OneLine s) :=
  inferInstanceAs (Decidable ('\n' ∉ s.toList))

theorem OneLine.append {s t : String} (hs : OneLine s) (ht : OneLine t) : OneLine (s ++ t) := by
  rw [OneLine, String.toList_append, List.mem_append, not_or]
  exact ⟨hs, ht⟩

/-- The longest prefix without a line feed. -/
def IsLongestRun (p t : List Char) : Prop :=
  p <+: t ∧ '\n' ∉ p ∧ ∀ q, q <+: t → '\n' ∉ q → q <+: p

theorem isLongestRun_self {t : List Char} (h : '\n' ∉ t) : IsLongestRun t t :=
  ⟨List.prefix_refl t, h, fun _ hq _ => hq⟩

theorem isLongestRun_append {p : List Char} (h : '\n' ∉ p) (rest : List Char) :
    IsLongestRun p (p ++ '\n' :: rest) := by
  refine ⟨List.prefix_append p _, h, ?_⟩
  intro q hq hfree
  rcases List.prefix_or_prefix_of_prefix hq (List.prefix_append p _) with hle | ⟨r, rfl⟩
  · exact hle
  · cases r with
    | nil => simp
    | cons c r =>
      obtain ⟨rfl, -⟩ := List.cons_prefix_cons.1 ((List.prefix_append_right_inj p).1 hq)
      exact absurd (List.mem_append_right p List.mem_cons_self) hfree

theorem pieces_of_not_mem {p : List Char} (h : '\n' ∉ p) (hne : p ≠ []) : pieces p = [p] := by
  induction p with
  | nil => exact absurd rfl hne
  | cons c cs ih =>
    rw [pieces, if_neg (List.ne_of_not_mem_cons h).symm]
    cases cs with
    | nil => rfl
    | cons d ds => rw [ih (List.not_mem_of_not_mem_cons h) (List.cons_ne_nil d ds)]

theorem pieces_append {p : List Char} (h : '\n' ∉ p) (rest : List Char) :
    pieces (p ++ '\n' :: rest) = (p ++ ['\n']) :: pieces rest := by
  induction p with
  | nil => rfl
  | cons c cs ih =>
    rw [List.cons_append, pieces, if_neg (List.ne_of_not_mem_cons h).symm,
      ih (List.not_mem_of_not_mem_cons h)]
    rfl

theorem dropEnd_of_not_mem {p : List Char} (h : '\n' ∉ p) : dropEnd p = p := by
  apply if_neg
  intro hlast
  exact h (List.mem_of_getLast? hlast)

theorem dropEnd_concat (p : List Char) : dropEnd (p ++ ['\n']) = dropReturn p := by
  rw [dropEnd, List.getLast?_concat, if_pos rfl, List.dropLast_concat]

theorem dropReturn_concat (p : List Char) : dropReturn (p ++ ['\r']) = p := by
  rw [dropReturn, List.getLast?_concat, if_pos rfl, List.dropLast_concat]

theorem firstLine_of_oneLine {s : String} (h : OneLine s) : firstLine s = s :=
  if_neg h

theorem firstLine_of_feed {s : String} {p rest : List Char} (h : '\n' ∉ p)
    (hs : s.toList = p ++ '\n' :: rest) : firstLine s = String.ofList (dropReturn p) := by
  have hmem : '\n' ∈ s.toList := by
    rw [hs]
    exact List.mem_append_right p List.mem_cons_self
  have hrun : ∀ c ∈ p, decide (c ≠ '\n') = true :=
    fun c hc => decide_eq_true fun he => h (he ▸ hc)
  rw [firstLine, if_pos hmem, hs, List.takeWhile_append_of_pos hrun]
  simp

theorem oneLine_or_feed (s : String) :
    OneLine s ∨ ∃ p rest, '\n' ∉ p ∧ s.toList = p ++ '\n' :: rest := by
  by_cases h : '\n' ∈ s.toList
  · obtain ⟨p, rest, hs, hp⟩ := List.eq_append_cons_of_mem h
    exact .inr ⟨p, rest, hp, hs⟩
  · exact .inl h

theorem head?_lines {s : String} (h : s ≠ "") : (lines s).head? = some (firstLine s) := by
  rcases oneLine_or_feed s with hs | ⟨p, rest, hp, hs⟩
  · have hne : s.toList ≠ [] := fun he => h (String.toList_injective he)
    rw [lines, pieces_of_not_mem hs hne, firstLine_of_oneLine hs, List.map_singleton,
      dropEnd_of_not_mem hs, String.ofList_toList, List.head?_cons]
  · rw [lines, hs, pieces_append hp, firstLine_of_feed hp hs, List.map_cons, dropEnd_concat,
      List.head?_cons]

/-- The first line is the longest prefix without a line feed, less one carriage return if the first
line feed stands right behind that. -/
theorem exists_longestRun (s : String) :
    ∃ p, IsLongestRun p s.toList ∧
      (∀ u, p = u ++ ['\r'] → p ++ ['\n'] <+: s.toList → (firstLine s).toList = u) ∧
      (¬ (p.getLast? = some '\r' ∧ p ++ ['\n'] <+: s.toList) → (firstLine s).toList = p) := by
  rcases oneLine_or_feed s with hs | ⟨p, rest, hp, hs⟩
  · refine ⟨s.toList, isLongestRun_self hs, ?_, ?_⟩
    · intro u _ hfeed
      have hmem := hfeed.subset (List.mem_append_right _ List.mem_cons_self)
      exact absurd hmem hs
    · intro _
      rw [firstLine_of_oneLine hs]
  · have hfeed : p ++ ['\n'] <+: s.toList := by
      rw [hs]
      exact (List.prefix_append_right_inj p).2 (List.prefix_append ['\n'] rest)
    rw [firstLine_of_feed hp hs, String.toList_ofList]
    refine ⟨p, hs ▸ isLongestRun_append hp rest, ?_, ?_⟩
    · rintro u rfl _
      exact dropReturn_concat u
    · intro h
      exact if_neg fun hreturn => h ⟨hreturn, hfeed⟩

end WhileLang.Text
