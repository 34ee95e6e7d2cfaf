import WhileLang.Proofs.Agreement

namespace WhileLang.Expr

/-- An expression with all expressions in it. -/
def nodes : Expr → List Expr
  | num n => [num n]
  | bool b => [bool b]
  | var x => [var x]
  | not e => not e :: e.nodes
  | group e => group e :: e.nodes
  | binary op l r => binary op l r :: (l.nodes ++ r.nodes)

theorem mem_nodes_self (e : Expr) : e ∈ e.nodes := by
  cases e <;> exact List.mem_cons_self

theorem mem_nodes_binary {op : BinOp} {d l r : Expr} :
    d ∈ (binary op l r).nodes ↔ d = binary op l r ∨ d ∈ l.nodes ∨ d ∈ r.nodes := by
  rw [nodes, List.mem_cons, List.mem_append]

theorem nodes_left_subset (op : BinOp) (l r : Expr) : l.nodes ⊆ (binary op l r).nodes :=
  List.subset_cons_of_subset _ (List.subset_append_left _ _)

theorem nodes_right_subset (op : BinOp) (l r : Expr) : r.nodes ⊆ (binary op l r).nodes :=
  List.subset_cons_of_subset _ (List.subset_append_right _ _)

/-- The expression `d` stands in an equation of `e` that has two ill-typed sides. -/
def HiddenIn (Γ : Context) (d e : Expr) : Prop :=
  ∃ l r, binary .eq l r ∈ e.nodes ∧ l.infer Γ = .illTyped ∧ r.infer Γ = .illTyped ∧
    (d ∈ l.nodes ∨ d ∈ r.nodes)

variable {Γ : Context} {d e : Expr}

theorem HiddenIn.mono {e' : Expr} (h : d.HiddenIn Γ e) (he : e.nodes ⊆ e'.nodes) :
    d.HiddenIn Γ e' := by
  obtain ⟨l, r, heq, hl, hr, hd⟩ := h
  exact ⟨l, r, he heq, hl, hr, hd⟩

/-- Inference passes `illTyped` upward past everything but an equation of two ill-typed sides. -/
theorem hiddenIn_of_illTyped (h : e.infer Γ ≠ .illTyped) (hd : d ∈ e.nodes)
    (hi : d.infer Γ = .illTyped) : d.HiddenIn Γ e := by
  induction e with
  | num n => exact absurd hi (List.mem_singleton.1 hd ▸ h)
  | bool b => exact absurd hi (List.mem_singleton.1 hd ▸ h)
  | var x => exact absurd hi (List.mem_singleton.1 hd ▸ h)
  | not e ih =>
    rcases List.mem_cons.1 hd with rfl | hd
    · exact absurd hi h
    · have he : e.infer Γ ≠ .illTyped := fun he => h (congrArg Ty.not he)
      exact (ih he hd).mono (List.subset_cons_self _ _)
  | group e ih =>
    rcases List.mem_cons.1 hd with rfl | hd
    · exact absurd hi h
    · exact (ih h hd).mono (List.subset_cons_self _ _)
  | binary op l r ihl ihr =>
    rcases mem_nodes_binary.1 hd with rfl | hsub
    · exact absurd hi h
    · by_cases hole : op = .eq ∧ l.infer Γ = .illTyped ∧ r.infer Γ = .illTyped
      · obtain ⟨rfl, hl, hr⟩ := hole
        exact ⟨l, r, mem_nodes_self _, hl, hr, hsub⟩
      · have heq : op = .eq → l.infer Γ ≠ .illTyped ∨ r.infer Γ ≠ .illTyped := fun he =>
          Decidable.not_and_iff_not_or_not.1 fun hboth => hole ⟨he, hboth⟩
        obtain ⟨hl, hr⟩ := BinOp.infer_operands h heq
        rcases hsub with hd | hd
        · exact (ihl hl hd).mono (nodes_left_subset op l r)
        · exact (ihr hr hd).mono (nodes_right_subset op l r)

theorem EqTyped.of_mem_nodes (h : e.EqTyped Γ) (hd : d ∈ e.nodes) : d.EqTyped Γ := by
  induction e with
  | num n => exact List.mem_singleton.1 hd ▸ h
  | bool b => exact List.mem_singleton.1 hd ▸ h
  | var x => exact List.mem_singleton.1 hd ▸ h
  | not e ih =>
    rcases List.mem_cons.1 hd with rfl | hd
    · exact h
    · exact ih h hd
  | group e ih =>
    rcases List.mem_cons.1 hd with rfl | hd
    · exact h
    · exact ih h hd
  | binary op l r ihl ihr =>
    rcases mem_nodes_binary.1 hd with rfl | hd | hd
    · exact h
    · exact ihl h.1 hd
    · exact ihr h.2.1 hd

theorem EqTyped.not_hiddenIn (h : e.EqTyped Γ) : ¬ d.HiddenIn Γ e := by
  rintro ⟨l, r, heq, hl, hr, -⟩
  rcases (h.of_mem_nodes heq).2.2 rfl with hl' | hr'
  · exact hl' hl
  · exact hr' hr

theorem eqTyped_of_nodes (h : ∀ d ∈ e.nodes, d.infer Γ ≠ .illTyped) : e.EqTyped Γ := by
  induction e with
  | num n => trivial
  | bool b => trivial
  | var x => trivial
  | not e ih => exact ih fun d hd => h d (List.mem_cons_of_mem _ hd)
  | group e ih => exact ih fun d hd => h d (List.mem_cons_of_mem _ hd)
  | binary op l r ihl ihr =>
    have hl := fun d hd => h d (nodes_left_subset op l r hd)
    have hr := fun d hd => h d (nodes_right_subset op l r hd)
    exact ⟨ihl hl, ihr hr, fun _ => .inl (hl l l.mem_nodes_self)⟩

/-- An ill-typed part of an expression with a proper type stands in an equation of two ill-typed
sides. So all parts have a proper type exactly when there is no such equation. -/
theorem illTyped_propagates (h : e.infer Γ ≠ .illTyped) :
    (∀ d ∈ e.nodes, d.infer Γ = .illTyped → d.HiddenIn Γ e) ∧
      (e.EqTyped Γ ↔ ∀ d ∈ e.nodes, d.infer Γ ≠ .illTyped) := by
  have hhidden : ∀ d ∈ e.nodes, d.infer Γ = .illTyped → d.HiddenIn Γ e :=
    fun _ hd => hiddenIn_of_illTyped h hd
  exact ⟨hhidden, fun heq d hd hi => heq.not_hiddenIn (hhidden d hd hi), eqTyped_of_nodes⟩

/-- Of the first condition all parts have types. The second one is accepted as well, although it
compares two variables that are not recorded. -/
theorem illTyped_propagates_conditions :
    let Γ := Context.empty.declare "x" .int
    let below := not (binary .lt (var "x") (num 3))
    let unknown := binary .or below (binary .eq (var "u") (var "w"))
    (below.infer Γ ≠ .illTyped ∧ below.EqTyped Γ ∧ ∀ d ∈ below.nodes, d.infer Γ ≠ .illTyped) ∧
      unknown.infer Γ ≠ .illTyped ∧ ¬ unknown.EqTyped Γ ∧
        var "w" ∈ unknown.nodes ∧ (var "w").infer Γ = .illTyped ∧ (var "w").HiddenIn Γ unknown := by
  intro Γ below unknown
  have hbelow : below.infer Γ ≠ .illTyped := by decide +kernel
  have htyped : below.EqTyped Γ := by decide +kernel
  have hunknown : unknown.infer Γ ≠ .illTyped := by decide +kernel
  have hmem : var "w" ∈ unknown.nodes := by decide +kernel
  have hi : (var "w").infer Γ = .illTyped := by decide +kernel
  exact ⟨⟨hbelow, htyped, (illTyped_propagates hbelow).2.1 htyped⟩, hunknown, by decide +kernel,
    hmem, hi, (illTyped_propagates hunknown).1 _ hmem hi⟩

/-- Not every part of an expression with a proper type has one: two unknown variables make a truth
value when they are compared. -/
theorem illTyped_stops_at_equation :
    ¬ ∀ (Γ : Context) (e : Expr), e.infer Γ ≠ .illTyped → ∀ d ∈ e.nodes, d.infer Γ ≠ .illTyped := by
  intro h
  have hbool : (binary .eq (var "u") (var "w")).infer .empty = .bool := by decide +kernel
  have hu : (var "u").infer .empty = .illTyped := by decide +kernel
  exact h .empty (binary .eq (var "u") (var "w")) (by rw [hbool]; exact nofun) (var "u")
    (by decide +kernel) hu

end WhileLang.Expr
