import WhileLang.Proofs.Arguments
import WhileLang.Proofs.Courses
import WhileLang.Proofs.Streaming
import Mathlib.Data.List.Nodup

namespace WhileLang

section Traversal

variable {ε α β : Type} {f : α → Except ε β}

theorem mapM_of_forall₂ {as : List α} {bs : List β}
    (h : List.Forall₂ (fun a b => f a = .ok b) as bs) : as.mapM f = .ok bs := by
  induction h with
  | nil => rfl
  | cons ha hrest ih =>
    rw [List.mapM_cons, ha, ih]
    rfl

theorem mapM_of_error {before : List α} {a : α} {e : ε} (hbefore : ∀ x ∈ before, ∃ b, f x = .ok b)
    (ha : f a = .error e) (after : List α) : (before ++ a :: after).mapM f = .error e := by
  induction before with
  | nil =>
    rw [List.nil_append, List.mapM_cons, ha]
    rfl
  | cons x before ih =>
    obtain ⟨⟨b, hb⟩, hrest⟩ := List.forall_mem_cons.1 hbefore
    rw [List.cons_append, List.mapM_cons, hb, ih hrest]
    rfl

end Traversal

theorem Stmt.trace_mono {m n : Nat} (hmn : m ≤ n) {s : Stmt} {env : Store}
    {t : List Event × Store} (h : s.trace m env = some t) : s.trace n env = some t := by
  obtain ⟨r, hr, rfl⟩ := Option.map_eq_some_iff.1 h
  rw [trace, exec_mono hmn _ _ _ _ hr, Option.map_some]

theorem exists_forall₂ {α β : Type} {R : α → β → Prop} {as : List α} (h : ∀ a ∈ as, ∃ b, R a b) :
    ∃ bs, List.Forall₂ R as bs := by
  induction as with
  | nil => exact ⟨[], .nil⟩
  | cons a as ih =>
    obtain ⟨⟨b, hb⟩, hrest⟩ := List.forall_mem_cons.1 h
    obtain ⟨bs, hbs⟩ := ih hrest
    exact ⟨b :: bs, .cons hb hbs⟩

namespace Gallery

def Known (name : String) : Prop :=
  ∃ e ∈ programs, e.name = name

instance (name : String) : Decidable (Known name) :=
  inferInstanceAs (Decidable (∃ e ∈ programs, e.name = name))

/-- No names choose every exhibit, in the order of the gallery, and names one exhibit each. -/
inductive Chooses : List String → List Exhibit → Prop
  | all : Chooses [] programs
  | each {names exhibits} (hne : names ≠ [])
      (h : List.Forall₂ (fun name e => e ∈ programs ∧ e.name = name) names exhibits) :
    Chooses names exhibits

theorem nodup_names : (programs.map Exhibit.name).Nodup := by decide

theorem find?_spec {name : String} {e : Exhibit} (h : find? name = some e) :
    e ∈ programs ∧ e.name = name :=
  ⟨List.mem_of_find?_eq_some h,
    of_decide_eq_true (List.find?_some (p := fun e : Exhibit => e.name = name) h)⟩

/-- No two exhibits share a name, so that the first one of a name is the only one. -/
theorem find?_eq_some_iff {name : String} {e : Exhibit} :
    find? name = some e ↔ e ∈ programs ∧ e.name = name := by
  constructor
  · exact find?_spec
  · rintro ⟨he, rfl⟩
    obtain ⟨e', hfind⟩ : ∃ e', find? e.name = some e' :=
      Option.isSome_iff_exists.1 (List.find?_isSome.2 ⟨e, he, decide_eq_true rfl⟩)
    obtain ⟨he', hname⟩ := find?_spec hfind
    rw [hfind, List.inj_on_of_nodup_map nodup_names he' he hname]

/-- The exhibit of a name, or the name itself when there is none. -/
def lookup (name : String) : Except String Exhibit :=
  match find? name with
  | some e => .ok e
  | none => .error name

theorem lookup_eq_ok_iff {name : String} {e : Exhibit} :
    lookup name = .ok e ↔ e ∈ programs ∧ e.name = name := by
  rw [← find?_eq_some_iff, lookup]
  cases find? name <;> simp

theorem known_iff {name : String} : Known name ↔ ∃ e, lookup name = .ok e := by
  simp only [Known, lookup_eq_ok_iff]

theorem lookup_unknown {name : String} (h : ¬Known name) : lookup name = .error name := by
  cases hfind : find? name with
  | none => rw [lookup, hfind]
  | some e => exact absurd ⟨e, find?_eq_some_iff.1 hfind⟩ h

theorem select_of_ne_nil {names : List String} (h : names ≠ []) :
    select names = names.mapM lookup := by
  cases names with
  | nil => contradiction
  | cons name names => rfl

theorem Chooses.select_eq {names : List String} {exhibits : List Exhibit}
    (h : Chooses names exhibits) : select names = .ok exhibits := by
  cases h with
  | all => rfl
  | each hne h =>
    rw [select_of_ne_nil hne]
    apply mapM_of_forall₂
    exact h.imp fun name e he => lookup_eq_ok_iff.2 he

theorem exists_chooses {names : List String} (h : ∀ name ∈ names, Known name) :
    ∃ exhibits, Chooses names exhibits := by
  by_cases hne : names = []
  · subst hne
    exact ⟨programs, .all⟩
  · obtain ⟨exhibits, hexhibits⟩ := exists_forall₂ h
    exact ⟨exhibits, .each hne hexhibits⟩

theorem Chooses.mem_programs {names : List String} {exhibits : List Exhibit}
    (h : Chooses names exhibits) : ∀ e ∈ exhibits, e ∈ programs := by
  cases h with
  | all => exact fun e he => he
  | each hne h =>
    clear hne
    induction h with
    | nil => exact List.forall_mem_nil _
    | cons he hrest ih => exact List.forall_mem_cons.2 ⟨he.1, ih⟩

theorem select_unknown {before : List String} {name : String}
    (hbefore : ∀ x ∈ before, Known x) (hname : ¬Known name) (after : List String) :
    select (before ++ name :: after) = .error name := by
  rw [select_of_ne_nil (by simp)]
  exact mapM_of_error (fun x hx => known_iff.1 (hbefore x hx)) (lookup_unknown hname) after

theorem exists_first_unknown {names : List String} (h : ¬∀ name ∈ names, Known name) :
    ∃ before name after, names = before ++ name :: after ∧ (∀ x ∈ before, Known x) ∧
      ¬Known name := by
  induction names with
  | nil => exact absurd (List.forall_mem_nil _) h
  | cons name names ih =>
    by_cases hname : Known name
    · have hrest : ¬∀ x ∈ names, Known x :=
        fun hrest => h (List.forall_mem_cons.2 ⟨hname, hrest⟩)
      obtain ⟨before, x, after, rfl, hbefore, hx⟩ := ih hrest
      exact ⟨name :: before, x, after, rfl, List.forall_mem_cons.2 ⟨hname, hbefore⟩, hx⟩
    · exact ⟨[], name, names, rfl, List.forall_mem_nil _, hname⟩

/-- What is shown of an exhibit whose run leaves these events. -/
def Exhibit.page (sc : Scoping) (e : Exhibit) (es : List Event) : String :=
  Transcript.unlines (
    ["", "EXAMPLE: " ++ e.name, "CODE FROM AST:", e.program.text, "",
      "TYPE CHECK: " ++ boolText (e.program.check sc .empty).verdict, "", "RUNTIME RESULT:"] ++
    es.map Event.text ++
    ["", "**************************"])

/-- The run of the exhibit ends, and this is what is shown of it. -/
def Exhibit.HasPage (sc : Scoping) (e : Exhibit) (page : String) : Prop :=
  ∃ es env, e.program.body.Leaves .empty es env ∧ page = e.page sc es

theorem Exhibit.HasPage.unique {sc : Scoping} {e : Exhibit} {page page' : String}
    (h : e.HasPage sc page) (h' : e.HasPage sc page') : page = page' := by
  obtain ⟨es, env, hleaves, rfl⟩ := h
  obtain ⟨fs, env', hleaves', rfl⟩ := h'
  rw [(hleaves.unique hleaves').1]

/-- A bound that no loop of the exhibits reaches. -/
def enoughRounds : Nat := 16

theorem trace_ends : ∀ e ∈ programs, (e.program.body.trace enoughRounds .empty).isSome := by
  decide +kernel

theorem exists_trace {e : Exhibit} (he : e ∈ programs) :
    ∃ es env, ∀ bound ≥ enoughRounds, e.program.body.trace bound .empty = some (es, env) := by
  obtain ⟨⟨es, env⟩, ht⟩ := Option.isSome_iff_exists.1 (trace_ends e he)
  exact ⟨es, env, fun bound hbound => Stmt.trace_mono hbound ht⟩

theorem exists_page {e : Exhibit} (he : e ∈ programs) (sc : Scoping) :
    ∃ page, e.HasPage sc page := by
  obtain ⟨es, env, ht⟩ := exists_trace he
  exact ⟨_, es, env, ⟨enoughRounds, ht enoughRounds (Nat.le_refl _)⟩, rfl⟩

theorem Exhibit.HasPage.trace {sc : Scoping} {e : Exhibit} {page : String}
    (h : e.HasPage sc page) (he : e ∈ programs) {bound : Nat} (hbound : bound ≥ enoughRounds) :
    ∃ es env, e.program.body.trace bound .empty = some (es, env) ∧ page = e.page sc es := by
  obtain ⟨es, env, ht⟩ := exists_trace he
  have hpage : e.HasPage sc (e.page sc es) := ⟨es, env, ⟨bound, ht bound hbound⟩, rfl⟩
  exact ⟨es, env, ht bound hbound, h.unique hpage⟩

end Gallery

namespace Command

variable {bound : Nat} {sc : Scoping}

theorem showExhibit_eq (stream : Bool) (t : Transcript) (e : Gallery.Exhibit) :
    showExhibit bound sc stream t e =
      (e.program.body.trace bound .empty).map fun r => ⟨t.text ++ e.page sc r.1⟩ := by
  have hshow : showExhibit bound sc stream = showExhibit bound sc false := by
    cases stream with
    | false => rfl
    | true => exact showExhibit_stream bound sc
  rw [hshow]
  change (e.program.report bound sc).map (t.writeReport e.name) = _
  rw [Program.report_eq_trace, Option.map_map]
  apply congrArg (fun write => (e.program.body.trace bound .empty).map write)
  funext r
  rw [Function.comp_apply, Transcript.writeReport_eq, Gallery.Exhibit.page,
    ← Transcript.text_writeLines]

theorem foldlM_showExhibit {exhibits : List Gallery.Exhibit} {pages : List String}
    (hpages : List.Forall₂ (Gallery.Exhibit.HasPage sc) exhibits pages)
    (hmem : ∀ e ∈ exhibits, e ∈ Gallery.programs) (hbound : bound ≥ Gallery.enoughRounds)
    (stream : Bool) (t : Transcript) :
    exhibits.foldlM (showExhibit bound sc stream) t = some ⟨t.text ++ String.join pages⟩ := by
  induction hpages generalizing t with
  | nil => exact congrArg (fun text => some (Transcript.mk text)) String.append_empty.symm
  | cons hpage hrest ih =>
    obtain ⟨he, hmem⟩ := List.forall_mem_cons.1 hmem
    obtain ⟨es, env, ht, rfl⟩ := hpage.trace he hbound
    rw [List.foldlM_cons, showExhibit_eq, ht, String.join_cons, ← String.append_assoc]
    exact ih hmem _

theorem perform_of_chooses {names : List String} {nested : Bool}
    {exhibits : List Gallery.Exhibit} {pages : List String}
    (hchooses : Gallery.Chooses names exhibits)
    (hpages : List.Forall₂ (Gallery.Exhibit.HasPage (if nested then .nested else .flat)) exhibits
      pages)
    (hbound : bound ≥ Gallery.enoughRounds) (stream : Bool) :
    (run names nested stream).perform bound = some ⟨0, String.join pages, ""⟩ := by
  have hshow := foldlM_showExhibit hpages hchooses.mem_programs hbound stream .empty
  rw [Transcript.empty, String.empty_append] at hshow
  rw [perform, hchooses.select_eq]
  exact congrArg (Option.map Outcome.success) hshow

theorem perform_of_unknown (nested stream : Bool) {before : List String} {name : String}
    (hbefore : ∀ x ∈ before, Gallery.Known x) (hname : ¬Gallery.Known name)
    (after : List String) :
    (run (before ++ name :: after) nested stream).perform bound =
      some ⟨1, "", "Unknown example `" ++ name ++ "`, see `scopewalk list`\n"⟩ := by
  rw [perform, Gallery.select_unknown hbefore hname]
  rfl

end Command

namespace Host

variable {host : Host} {args names : List String} {nested stream : Bool}

theorem outcome_of_command {c : Command} (hread : host.read args = .command c)
    (hlog : host.logFilter = none) (bound : Nat) : host.outcome bound args = c.perform bound := by
  have hlogged : host.logged args = "" := by rw [logged, hlog]
  rw [outcome, hread, hlogged]
  change (c.perform bound).map (Outcome.logging "") = _
  cases c.perform bound with
  | none => rfl
  | some o => exact congrArg some o.logging_empty

/-- The programs that the names choose are shown whole, in the order of the names, or nothing is
shown and the first name that is no program is the error. Where the flags stand before a `--` makes
no difference. -/
theorem outcome_run (hread : host.ReadsRun) (hlog : host.logFilter = none)
    (h : Command.Accepts args names nested stream) :
    ((∀ name ∈ names, Gallery.Known name) → ∃ exhibits pages, Gallery.Chooses names exhibits ∧
      List.Forall₂ (Gallery.Exhibit.HasPage (if nested then .nested else .flat)) exhibits pages ∧
      ∃ rounds ≤ ampleBound, ∀ bound ≥ rounds,
        host.outcome bound ("run" :: args) = some ⟨0, String.join pages, ""⟩) ∧
    ((¬∀ name ∈ names, Gallery.Known name) → ∃ before name after,
      names = before ++ name :: after ∧ (∀ x ∈ before, Gallery.Known x) ∧ ¬Gallery.Known name ∧
      ∀ bound, host.outcome bound ("run" :: args) =
        some ⟨1, "", "Unknown example `" ++ name ++ "`, see `scopewalk list`\n"⟩) ∧
    ∀ front front' rest, args = front ++ rest → "--" ∉ front → front.Perm front' →
      Command.namesOf front = Command.namesOf front' →
      Command.Accepts (front' ++ rest) names nested stream ∧
        ∀ bound, host.outcome bound ("run" :: (front' ++ rest)) =
          host.outcome bound ("run" :: args) := by
  have houtcome := outcome_of_command (hread h) hlog
  refine ⟨fun hknown => ?_, fun hunknown => ?_, ?_⟩
  · obtain ⟨exhibits, hchooses⟩ := Gallery.exists_chooses hknown
    obtain ⟨pages, hpages⟩ := exists_forall₂ fun e he =>
      Gallery.exists_page (hchooses.mem_programs e he) (if nested then .nested else .flat)
    refine ⟨exhibits, pages, hchooses, hpages, Gallery.enoughRounds, by decide, ?_⟩
    intro bound hbound
    rw [houtcome, Command.perform_of_chooses hchooses hpages hbound]
  · obtain ⟨before, name, after, hnames, hbefore, hname⟩ := Gallery.exists_first_unknown hunknown
    refine ⟨before, name, after, hnames, hbefore, hname, fun bound => ?_⟩
    rw [houtcome, hnames, Command.perform_of_unknown nested stream hbefore hname]
  · rintro front front' rest rfl hdashes hperm hnames
    have hmoved := h.perm hdashes hperm hnames
    refine ⟨hmoved, fun bound => ?_⟩
    rw [houtcome, outcome_of_command (hread hmoved) hlog]

/-- A program chosen twice with a flag between, and a flag that is a name because it follows the
dashes. -/
theorem outcome_run_flagsAndDashes :
    let multiply := "\nEXAMPLE: multiply\nCODE FROM AST:\n" ++
      "\x7b\nx := 2;\ny := (x*3);\nprint y\n\x7d\n" ++
      "\nTYPE CHECK: true\n\nRUNTIME RESULT:\n6\n\n**************************\n"
    let mismatch := "\nEXAMPLE: assign_kind_mismatch\nCODE FROM AST:\n" ++
      "\x7b\nx := 4;\nx = false;\nprint x\n\x7d\n\nTYPE CHECK: false\n\nRUNTIME RESULT:\n" ++
      "Error: AssignmentKindMismatch (Variable `x` holds `Int`, received `Bool`; " ++
      "re-declare it to change its kind)\n-> x = false\n4\n\n**************************\n"
    let args := ["multiply", "--stream", "assign_kind_mismatch", "multiply"]
    let names := ["multiply", "assign_kind_mismatch", "multiply"]
    standalone.ReadsRun ∧ standalone.logFilter = none ∧ Command.Accepts args names false true ∧
      (∃ rounds ≤ ampleBound, ∀ bound ≥ rounds, standalone.outcome bound ("run" :: args) =
        some ⟨0, String.join [multiply, mismatch, multiply], ""⟩) ∧
      (∀ bound, standalone.outcome bound ("run" :: "--stream" :: names) =
        standalone.outcome bound ("run" :: args)) ∧
      Command.Accepts ["multiply", "--", "--stream"] ["multiply", "--stream"] false false ∧
      ∀ bound, standalone.outcome bound ["run", "multiply", "--", "--stream"] =
        some ⟨1, "", "Unknown example `--stream`, see `scopewalk list`\n"⟩ := by
  intro multiply mismatch args names
  have hmixed : Command.Accepts args names false true := .mixed (by decide)
  have hescaped : Command.Accepts ["multiply", "--", "--stream"] ["multiply", "--stream"] false
      false := .escaped (show Command.Fits false false ["multiply"] by decide) ["--stream"]
  obtain ⟨hshown, -, hmoved⟩ := outcome_run standalone_readsRun rfl hmixed
  obtain ⟨exhibits, pages, hchooses, hpages, rounds, hle, hout⟩ := hshown (by decide)
  have hselect : Gallery.select names = .ok
      [⟨"multiply", "declarations and print", Gallery.multiply⟩,
        ⟨"assign_kind_mismatch", "assigning a bool to an int is skipped",
          Gallery.assignKindMismatch⟩,
        ⟨"multiply", "declarations and print", Gallery.multiply⟩] := rfl
  obtain rfl := Except.ok.inj (hchooses.select_eq.symm.trans hselect)
  have hmultiply : Gallery.Exhibit.HasPage .flat
      ⟨"multiply", "declarations and print", Gallery.multiply⟩ multiply :=
    ⟨_, _, ⟨1, rfl⟩, by decide +kernel⟩
  have hmismatch : Gallery.Exhibit.HasPage .flat ⟨"assign_kind_mismatch",
      "assigning a bool to an int is skipped", Gallery.assignKindMismatch⟩ mismatch :=
    ⟨_, _, ⟨1, rfl⟩, by decide +kernel⟩
  obtain rfl := List.right_unique_forall₂' (fun _ _ _ h h' => h.unique h') hpages
    (.cons hmultiply (.cons hmismatch (.cons hmultiply .nil)))
  obtain ⟨before, name, after, hnames, hbefore, hname, hunknown⟩ :=
    (outcome_run standalone_readsRun rfl hescaped).2.1 (by decide)
  have hfirst : name = "--stream" := by
    rcases before with _ | ⟨x, _ | ⟨y, before⟩⟩
    · cases hnames
      exact absurd (by decide) hname
    · cases hnames
      rfl
    · simp at hnames
  subst hfirst
  have hfront := hmoved ["multiply", "--stream"] ["--stream", "multiply"]
    ["assign_kind_mismatch", "multiply"] rfl (by decide) (by decide) (by decide)
  exact ⟨standalone_readsRun, rfl, hmixed, ⟨rounds, hle, hout⟩, hfront.2, hescaped, hunknown⟩

end Host

end WhileLang
