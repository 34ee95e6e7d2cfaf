import Mathlib.Order.BooleanAlgebra.Set
import WhileLang.Gallery
import WhileLang.Proofs.Contexts

namespace WhileLang

/-- The body of a loop or of a branch, with the names that occur around it. -/
structure Body where
  stmt : Stmt
  around : List String

namespace Body

def within (names : List String) (b : Body) : Body :=
  ⟨b.stmt, b.around ++ names⟩

/-- What the body declares itself, and not in a body of its own, does not occur around it. -/
def KeepsLocals (b : Body) : Prop :=
  ∀ x ∈ b.stmt.declaredOutside, x ∉ b.around

theorem keepsLocals_within {names : List String} {b : Body} :
    (b.within names).KeepsLocals ↔
      b.KeepsLocals ∧ ∀ x ∈ b.stmt.declaredOutside, x ∉ names := by
  constructor
  · intro h
    constructor
    · intro x hx hm
      exact h x hx (List.mem_append_left _ hm)
    · intro x hx hm
      exact h x hx (List.mem_append_right _ hm)
  · rintro ⟨hb, hnames⟩ x hx hm
    rcases List.mem_append.1 hm with hm | hm
    · exact hb x hx hm
    · exact hnames x hx hm

end Body

namespace Stmt

/-- All bodies in a statement, those in bodies among them. -/
def bodies : Stmt → List Body
  | seq s t => s.bodies.map (Body.within t.names) ++ t.bodies.map (Body.within s.names)
  | declare _ _ => []
  | assign _ _ => []
  | whileDo c body => ⟨body, c.names⟩ :: body.bodies.map (Body.within c.names)
  | ifElse c s t =>
    (⟨s, c.names ++ t.names⟩ :: s.bodies.map (Body.within (c.names ++ t.names))) ++
      (⟨t, c.names ++ s.names⟩ :: t.bodies.map (Body.within (c.names ++ s.names)))
  | print _ => []
  | block s => s.bodies

/-- The targets of the declarations that stand in a body. -/
def declaredInside (s : Stmt) : List String :=
  s.bodies.flatMap fun b => b.stmt.declaredOutside

theorem flatMap_within (names : List String) (s : Stmt) :
    (s.bodies.map (Body.within names)).flatMap (fun b => b.stmt.declaredOutside) =
      s.declaredInside :=
  List.flatMap_map ..

theorem declaredInside_seq (s t : Stmt) :
    (seq s t).declaredInside = s.declaredInside ++ t.declaredInside := by
  rw [declaredInside, bodies, List.flatMap_append, flatMap_within, flatMap_within]

theorem declaredInside_whileDo (c : Expr) (body : Stmt) :
    (whileDo c body).declaredInside = body.declaredOutside ++ body.declaredInside := by
  rw [declaredInside, bodies, List.flatMap_cons, flatMap_within]

theorem declaredInside_ifElse (c : Expr) (s t : Stmt) :
    (ifElse c s t).declaredInside =
      (s.declaredOutside ++ s.declaredInside) ++ (t.declaredOutside ++ t.declaredInside) := by
  rw [declaredInside, bodies, List.flatMap_append, List.flatMap_cons, List.flatMap_cons,
    flatMap_within, flatMap_within]

theorem mem_declared {x : String} {s : Stmt} :
    x ∈ s.declared ↔ x ∈ s.declaredOutside ++ s.declaredInside := by
  induction s with
  | seq s t ihs iht =>
    rw [declared, declaredOutside, declaredInside_seq]
    simp only [List.mem_append] at ihs iht ⊢
    rw [ihs, iht]
    exact or_or_or_comm
  | declare y e => rfl
  | assign y e => rfl
  | whileDo c body ih => rw [declared, declaredOutside, declaredInside_whileDo, ih, List.nil_append]
  | ifElse c s t ihs iht =>
    rw [declared, declaredOutside, declaredInside_ifElse, List.nil_append, List.mem_append, ihs,
      iht]
    exact List.mem_append.symm
  | print e => rfl
  | block s ih => exact ih

/-- No body declares a name that occurs around it. -/
def KeepsLocals (s : Stmt) : Prop :=
  ∀ b ∈ s.bodies, b.KeepsLocals

section Locals

variable {c : Expr} {s t : Stmt}

theorem keepsLocals_within {names : List String} :
    (∀ b ∈ s.bodies.map (Body.within names), b.KeepsLocals) ↔
      s.KeepsLocals ∧ ∀ x ∈ s.declaredInside, x ∉ names := by
  rw [List.forall_mem_map]
  constructor
  · intro h
    constructor
    · intro b hb
      exact (Body.keepsLocals_within.1 (h b hb)).1
    · intro x hx
      obtain ⟨b, hb, hxb⟩ := List.mem_flatMap.1 hx
      exact (Body.keepsLocals_within.1 (h b hb)).2 x hxb
  · rintro ⟨hs, hnames⟩ b hb
    refine Body.keepsLocals_within.2 ⟨hs b hb, ?_⟩
    intro x hx
    exact hnames x (List.mem_flatMap.2 ⟨b, hb, hx⟩)

theorem keepsLocals_seq :
    (seq s t).KeepsLocals ↔
      (s.KeepsLocals ∧ ∀ x ∈ s.declaredInside, x ∉ t.names) ∧
        t.KeepsLocals ∧ ∀ x ∈ t.declaredInside, x ∉ s.names := by
  rw [KeepsLocals, bodies, List.forall_mem_append, keepsLocals_within, keepsLocals_within]

theorem keepsLocals_body {names : List String} :
    (∀ b ∈ Body.mk s names :: s.bodies.map (Body.within names), b.KeepsLocals) ↔
      s.KeepsLocals ∧ ∀ x ∈ s.declared, x ∉ names := by
  have hdeclared : (∀ x ∈ s.declared, x ∉ names) ↔
      (∀ x ∈ s.declaredOutside, x ∉ names) ∧ ∀ x ∈ s.declaredInside, x ∉ names := by
    rw [← List.forall_mem_append]
    exact forall_congr' fun x => imp_congr_left mem_declared
  rw [List.forall_mem_cons, keepsLocals_within, hdeclared]
  exact and_left_comm

theorem keepsLocals_whileDo :
    (whileDo c s).KeepsLocals ↔ s.KeepsLocals ∧ ∀ x ∈ s.declared, x ∉ c.names :=
  keepsLocals_body

theorem keepsLocals_ifElse :
    (ifElse c s t).KeepsLocals ↔
      (s.KeepsLocals ∧ ∀ x ∈ s.declared, x ∉ c.names ++ t.names) ∧
        t.KeepsLocals ∧ ∀ x ∈ t.declared, x ∉ c.names ++ s.names := by
  rw [KeepsLocals, bodies, List.forall_mem_append, keepsLocals_body, keepsLocals_body]

end Locals

variable {x : String} {s : Stmt}

theorem KeepsLocals.not_mem_declaredOutside (h : s.KeepsLocals) (hx : x ∈ s.declaredInside) :
    x ∉ s.declaredOutside := by
  induction s with
  | seq s t ihs iht =>
    obtain ⟨⟨hs, hst⟩, ht, hts⟩ := keepsLocals_seq.1 h
    rw [declaredInside_seq] at hx
    intro hout
    rcases List.mem_append.1 hx with hx | hx <;> rcases List.mem_append.1 hout with hout | hout
    · exact ihs hs hx hout
    · exact hst x hx (t.declared_subset_names (t.declaredOutside_subset hout))
    · exact hts x hx (s.declared_subset_names (s.declaredOutside_subset hout))
    · exact iht ht hx hout
  | declare y e => cases hx
  | assign y e => cases hx
  | whileDo c body => exact List.not_mem_nil
  | ifElse c s t => exact List.not_mem_nil
  | print e => cases hx
  | block s ih => exact ih h hx

variable {N : Set String} {Γ Δ : Context}

/-- Checking a body for good and checking it on a copy: what it declares itself apart, the contexts
agree on as much as before. -/
theorem body_flat_nested (hΓ : Γ.AgreesOn N Δ) {M : Set String}
    (h : (s.check .flat Γ).Agrees M (s.check .nested Δ)) :
    (Scoping.flat.body (s.check .flat) Γ).Agrees (N \ {x | x ∈ s.declared})
      (Scoping.nested.body (s.check .nested) Δ) where
  verdict := h.verdict
  context := by
    intro x hx
    exact (get?_check .flat hx.2).trans (hΓ x hx.1)

theorem sdiff_append (N : Set String) (l l' : List String) :
    N \ {x | x ∈ l ++ l'} = (N \ {x | x ∈ l}) \ {x | x ∈ l'} := by
  rw [Set.sdiff_sdiff]
  congr 1
  ext x
  exact List.mem_append

theorem setOf_mem_declared (s : Stmt) :
    {x | x ∈ s.declaredOutside ++ s.declaredInside} = {x | x ∈ s.declared} :=
  Set.ext fun _ => mem_declared.symm

/-- Both modes check alike as long as the contexts agree on the names that are still to come. What
the flat mode recorded in bodies before is not among them. -/
theorem check_flat_nested (hlocal : s.KeepsLocals) (hs : ∀ x ∈ s.names, x ∈ N)
    (hΓ : Γ.AgreesOn N Δ) :
    (s.check .flat Γ).Agrees (N \ {x | x ∈ s.declaredInside}) (s.check .nested Δ) := by
  induction s generalizing N Γ Δ with
  | seq s t ihs iht =>
    obtain ⟨⟨hls, hst⟩, hlt, -⟩ := keepsLocals_seq.1 hlocal
    obtain ⟨hs, ht⟩ := List.forall_mem_append.1 hs
    rw [declaredInside_seq, sdiff_append, check, check]
    apply (ihs hls hs hΓ).andThen Set.sdiff_subset
    intro Γ' Δ' h'
    apply iht hlt _ h'
    -- the contexts may differ where the bodies of `s` declare, and none of that occurs in `t`
    intro x hx
    exact ⟨ht x hx, fun hin => hst x hin hx⟩
  | declare y e =>
    obtain ⟨-, he⟩ := List.forall_mem_cons.1 hs
    rw [check_declare, check_declare, hΓ.infer he]
    split
    · exact ⟨rfl, hΓ.mono Set.sdiff_subset⟩
    · exact ⟨rfl, (hΓ.declare y _).mono Set.sdiff_subset⟩
  | assign y e =>
    obtain ⟨hy, he⟩ := List.forall_mem_cons.1 hs
    rw [check, check, hΓ y hy, hΓ.infer he]
    exact ⟨rfl, hΓ.mono Set.sdiff_subset⟩
  | whileDo c body ih =>
    obtain ⟨hlb, -⟩ := keepsLocals_whileDo.1 hlocal
    obtain ⟨hc, hb⟩ := List.forall_mem_append.1 hs
    rw [declaredInside_whileDo, setOf_mem_declared, check, check, hΓ.infer hc]
    apply (Checked.Agrees.of_context hΓ _).andThen Set.sdiff_subset
    intro Γ' Δ' h'
    exact body_flat_nested h' (ih hlb hb h')
  | ifElse c s t ihs iht =>
    obtain ⟨⟨hls, hst⟩, hlt, -⟩ := keepsLocals_ifElse.1 hlocal
    obtain ⟨hcs, ht⟩ := List.forall_mem_append.1 hs
    obtain ⟨hc, hs⟩ := List.forall_mem_append.1 hcs
    rw [declaredInside_ifElse, sdiff_append, setOf_mem_declared, setOf_mem_declared, check, check,
      hΓ.infer hc]
    apply Checked.Agrees.andThen (N := N \ {x | x ∈ s.declared}) _ Set.sdiff_subset
    · intro Γ' Δ' h'
      have ht' : ∀ x ∈ t.names, x ∈ N \ {x | x ∈ s.declared} := by
        intro x hx
        exact ⟨ht x hx, fun hin => hst x hin (List.mem_append_right _ hx)⟩
      exact body_flat_nested h' (iht hlt ht' h')
    · apply (Checked.Agrees.of_context hΓ _).andThen Set.sdiff_subset
      intro Γ' Δ' h'
      exact body_flat_nested h' (ihs hls hs h')
  | print e =>
    rw [check, check, hΓ.infer hs]
    exact ⟨rfl, hΓ.mono Set.sdiff_subset⟩
  | block s ih => exact ih hlocal hs hΓ

/-- Where no name that a body declares is recorded or occurs outside of the innermost body around
its declaration, both modes give one verdict. They record the same of all names that no body
declares, and the nested mode records none of the others. -/
theorem check_flat_eq_nested
    (h : ∀ b ∈ s.bodies, ∀ x ∈ b.stmt.declaredOutside, Γ.get? x = none ∧ x ∉ b.around) :
    (s.check .flat Γ).verdict = (s.check .nested Γ).verdict ∧
      (∀ x ∉ s.declaredInside,
        (s.check .flat Γ).context.get? x = (s.check .nested Γ).context.get? x) ∧
      ∀ x ∈ s.declaredInside, (s.check .nested Γ).context.get? x = none := by
  have hlocal : s.KeepsLocals := fun b hb x hx => (h b hb x hx).2
  have hagree := check_flat_nested hlocal (fun x _ => Set.mem_univ x) (.refl Set.univ Γ)
  refine ⟨hagree.verdict, ?_, ?_⟩
  · intro x hx
    exact hagree.context x ⟨Set.mem_univ x, hx⟩
  · intro x hx
    have hout := hlocal.not_mem_declaredOutside hx
    obtain ⟨b, hb, hxb⟩ := List.mem_flatMap.1 hx
    exact (get?_check .nested hout).trans (h b hb x hxb).1

theorem check_flat_eq_nested_fib :
    let s := Gallery.fib.body
    (∀ b ∈ s.bodies, ∀ x ∈ b.stmt.declaredOutside, Context.empty.get? x = none ∧ x ∉ b.around) ∧
      (s.check .flat .empty).verdict = (s.check .nested .empty).verdict ∧
      (s.check .flat .empty).context.get? "result" =
        (s.check .nested .empty).context.get? "result" ∧
      (s.check .flat .empty).context.get? "sum" = some .int ∧
      (s.check .nested .empty).context.get? "sum" = none := by
  intro s
  have h : ∀ b ∈ s.bodies, ∀ x ∈ b.stmt.declaredOutside,
      Context.empty.get? x = none ∧ x ∉ b.around := by decide
  obtain ⟨hverdict, hsame, hnone⟩ := check_flat_eq_nested h
  exact ⟨h, hverdict, hsame "result" (by decide), rfl, hnone "sum" (by decide)⟩

end Stmt

end WhileLang
