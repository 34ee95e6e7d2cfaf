import WhileLang.Command

namespace WhileLang

namespace Command

def isFlag (arg : String) : Bool :=
  arg == "--scoped-types" || arg == "--stream"

/-- Before a `--`, a name starts with no dash, or it is a dash alone. -/
def IsPlain (arg : String) : Prop :=
  arg.toList.head? ≠ some '-' ∨ arg = "-"

instance (arg : String) : Decidable (IsPlain arg) :=
  inferInstanceAs (Decidable (arg.toList.head? ≠ some '-' ∨ arg = "-"))

/-- The arguments that are no flags, in their order. -/
def namesOf (args : List String) : List String :=
  args.filter fun arg => !isFlag arg

/-- Plain names with the flags among them, each flag once at most. Whether it was seen before counts
too. -/
structure Fits (nested stream : Bool) (args : List String) : Prop where
  plain : ∀ arg ∈ args, isFlag arg = true ∨ IsPlain arg
  nested_once : nested.toNat + args.count "--scoped-types" ≤ 1
  stream_once : stream.toNat + args.count "--stream" ≤ 1

/-- What may follow `run`, and what it says: names with the flags anywhere among them, and after the
first `--` names only, whatever they look like. -/
inductive Accepts : List String → List String → Bool → Bool → Prop
  | mixed {args} (h : Fits false false args) :
    Accepts args (namesOf args) (args.contains "--scoped-types") (args.contains "--stream")
  | escaped {args} (h : Fits false false args) (rest : List String) :
    Accepts (args ++ "--" :: rest) (namesOf args ++ rest) (args.contains "--scoped-types")
      (args.contains "--stream")

section Fitting

variable {nested stream : Bool} {arg : String} {args args' : List String}

theorem isFlag_eq_false_iff :
    isFlag arg = false ↔ arg ≠ "--scoped-types" ∧ arg ≠ "--stream" := by
  simp [isFlag]

theorem fits_iff : Fits nested stream args ↔
    (∀ arg ∈ args, isFlag arg = true ∨ IsPlain arg) ∧
      nested.toNat + args.count "--scoped-types" ≤ 1 ∧
      stream.toNat + args.count "--stream" ≤ 1 :=
  ⟨fun h => ⟨h.plain, h.nested_once, h.stream_once⟩, fun h => ⟨h.1, h.2.1, h.2.2⟩⟩

instance : Decidable (Fits nested stream args) :=
  decidable_of_iff _ fits_iff.symm

theorem once_succ (seen : Bool) (n : Nat) :
    seen.toNat + (n + 1) ≤ 1 ↔ seen = false ∧ true.toNat + n ≤ 1 := by
  cases seen with
  | false => simp [Nat.add_comm]
  | true => simp

theorem fits_nested :
    Fits nested stream ("--scoped-types" :: args) ↔ nested = false ∧ Fits true stream args := by
  have hflag : isFlag "--scoped-types" = true := rfl
  have hcount : ("--scoped-types" :: args).count "--stream" = args.count "--stream" :=
    List.count_cons_of_ne (by decide)
  rw [fits_iff, fits_iff, List.forall_mem_cons, List.count_cons_self, hcount, once_succ]
  simp only [hflag, true_or, true_and, and_assoc, and_left_comm]

theorem fits_stream :
    Fits nested stream ("--stream" :: args) ↔ stream = false ∧ Fits nested true args := by
  have hflag : isFlag "--stream" = true := rfl
  have hcount : ("--stream" :: args).count "--scoped-types" = args.count "--scoped-types" :=
    List.count_cons_of_ne (by decide)
  rw [fits_iff, fits_iff, List.forall_mem_cons, List.count_cons_self, hcount, once_succ]
  simp only [hflag, true_or, true_and, and_left_comm]

theorem fits_other (h : isFlag arg = false) :
    Fits nested stream (arg :: args) ↔ IsPlain arg ∧ Fits nested stream args := by
  obtain ⟨hnested, hstream⟩ := isFlag_eq_false_iff.1 h
  rw [fits_iff, fits_iff, List.forall_mem_cons, List.count_cons_of_ne hnested,
    List.count_cons_of_ne hstream, h, and_assoc]
  simp

theorem Fits.not_mem_dashes (h : Fits nested stream args) : "--" ∉ args :=
  fun hmem => absurd (h.plain "--" hmem) (by decide)

theorem Fits.perm (h : Fits nested stream args) (hperm : args.Perm args') :
    Fits nested stream args' where
  plain arg harg := h.plain arg (hperm.mem_iff.2 harg)
  nested_once := hperm.count_eq "--scoped-types" ▸ h.nested_once
  stream_once := hperm.count_eq "--stream" ▸ h.stream_once

theorem contains_perm (hperm : args.Perm args') (arg : String) :
    args.contains arg = args'.contains arg := by
  rw [Bool.eq_iff_iff, List.contains_iff_mem, List.contains_iff_mem, hperm.mem_iff]

theorem namesOf_append (args args' : List String) :
    namesOf (args ++ args') = namesOf args ++ namesOf args' :=
  List.filter_append ..

end Fitting

theorem dashes_after {front rest args tail : List String} (hdashes : "--" ∉ front)
    (h : front ++ rest = args ++ "--" :: tail) :
    ∃ mid, args = front ++ mid ∧ rest = mid ++ "--" :: tail := by
  rcases List.append_eq_append_iff.1 h with ⟨mid, hargs, hrest⟩ | ⟨mid, hfront, hmid⟩
  · exact ⟨mid, hargs, hrest⟩
  · cases mid with
    | nil => exact ⟨[], by rw [hfront, List.append_nil, List.append_nil], hmid.symm⟩
    | cons arg mid =>
      obtain ⟨rfl, -⟩ := List.cons.inj hmid
      exact absurd (hfront ▸ List.mem_append_right args List.mem_cons_self) hdashes

theorem Accepts.perm {front front' rest names : List String} {nested stream : Bool}
    (h : Accepts (front ++ rest) names nested stream) (hdashes : "--" ∉ front)
    (hperm : front.Perm front') (hnames : namesOf front = namesOf front') :
    Accepts (front' ++ rest) names nested stream := by
  generalize hargs : front ++ rest = args at h
  cases h with
  | mixed h =>
    subst hargs
    have hmoved := hperm.append_right rest
    rw [namesOf_append, hnames, ← namesOf_append, contains_perm hmoved, contains_perm hmoved]
    exact .mixed (h.perm hmoved)
  | escaped h tail =>
    obtain ⟨mid, rfl, rfl⟩ := dashes_after hdashes hargs
    have hmoved := hperm.append_right mid
    rw [namesOf_append, hnames, ← namesOf_append, contains_perm hmoved, contains_perm hmoved,
      ← List.append_assoc]
    exact .escaped (h.perm hmoved) tail

section Reading

variable {names rest : List String} {nested stream : Bool} {arg : String}

theorem readRun_dashes :
    readRun names nested stream ("--" :: rest) = some (.run (names ++ rest) nested stream) := rfl

theorem readRun_nested :
    readRun names nested stream ("--scoped-types" :: rest) =
      if nested then none else readRun names true stream rest := rfl

theorem readRun_stream :
    readRun names nested stream ("--stream" :: rest) =
      if stream then none else readRun names nested true rest := rfl

theorem readRun_other (hdashes : arg ≠ "--") (hflag : isFlag arg = false) :
    readRun names nested stream (arg :: rest) =
      if IsPlain arg then readRun (names ++ [arg]) nested stream rest else none := by
  obtain ⟨hnested, hstream⟩ := isFlag_eq_false_iff.1 hflag
  have hread : readRun names nested stream (arg :: rest) =
      if arg.toList.head? = some '-' ∧ arg ≠ "-" then none
      else readRun (names ++ [arg]) nested stream rest := by
    simp only [readRun]
  rw [hread]
  by_cases hplain : IsPlain arg
  · rw [if_pos hplain, if_neg fun h => hplain.elim (absurd h.1) h.2]
  · rw [if_neg hplain, if_pos (by simpa [IsPlain] using hplain)]

theorem readRun_append {args : List String} (h : "--" ∉ args) :
    readRun names nested stream (args ++ rest) =
      if Fits nested stream args then
        readRun (names ++ namesOf args) (nested || args.contains "--scoped-types")
          (stream || args.contains "--stream") rest
      else none := by
  induction args generalizing names nested stream with
  | nil => simp [namesOf, fits_iff, Bool.toNat_le]
  | cons arg args ih =>
    obtain ⟨hdashes, hargs⟩ : "--" ≠ arg ∧ "--" ∉ args := by simpa using h
    rw [List.cons_append]
    by_cases hnested : arg = "--scoped-types"
    · subst hnested
      rw [readRun_nested, ih hargs]
      cases nested <;> simp [fits_nested, namesOf, isFlag]
    by_cases hstream : arg = "--stream"
    · subst hstream
      rw [readRun_stream, ih hargs]
      cases stream <;> simp [fits_stream, namesOf, isFlag]
    have hflag : isFlag arg = false := isFlag_eq_false_iff.2 ⟨hnested, hstream⟩
    rw [readRun_other hdashes.symm hflag, ih hargs]
    by_cases hplain : IsPlain arg
    · simp [fits_other hflag, namesOf, hflag, hplain, Ne.symm hnested, Ne.symm hstream]
    · simp [fits_other hflag, hplain]

theorem Fits.readRun_append {args : List String} (h : Fits false false args) (rest : List String) :
    readRun [] false false (args ++ rest) =
      readRun (namesOf args) (args.contains "--scoped-types") (args.contains "--stream") rest := by
  rw [Command.readRun_append h.not_mem_dashes, if_pos h]
  rfl

theorem fits_of_readRun {args : List String} {c : Command} (h : "--" ∉ args)
    (hread : readRun [] false false (args ++ rest) = some c) : Fits false false args := by
  rw [readRun_append h] at hread
  apply Decidable.byContradiction
  intro hfits
  rw [if_neg hfits] at hread
  contradiction

theorem Accepts.readRun_eq {args : List String} (h : Accepts args names nested stream) :
    readRun [] false false args = some (.run names nested stream) := by
  cases h with
  | mixed h =>
    have hread := h.readRun_append []
    rw [List.append_nil] at hread
    exact hread
  | escaped h rest => exact (h.readRun_append ("--" :: rest)).trans readRun_dashes

/-- The reader takes what the grammar accepts, and nothing else. -/
theorem ofArgs?_run_eq_some_iff {args : List String} {c : Command} :
    ofArgs? ("run" :: args) = some c ↔
      ∃ names nested stream, Accepts args names nested stream ∧ c = .run names nested stream := by
  change readRun [] false false args = some c ↔ _
  constructor
  · intro h
    by_cases hmem : "--" ∈ args
    · obtain ⟨front, rest, rfl, hfront⟩ := List.eq_append_cons_of_mem hmem
      have hfits := fits_of_readRun hfront h
      have hread := (Accepts.escaped hfits rest).readRun_eq
      exact ⟨_, _, _, .escaped hfits rest, Option.some.inj (h.symm.trans hread)⟩
    · have hfits : Fits false false args := fits_of_readRun hmem ((List.append_nil args).symm ▸ h)
      have hread := (Accepts.mixed hfits).readRun_eq
      exact ⟨_, _, _, .mixed hfits, Option.some.inj (h.symm.trans hread)⟩
  · rintro ⟨names, nested, stream, haccepts, rfl⟩
    exact haccepts.readRun_eq

end Reading

end Command

/-- What the reader is relied on for: it knows what may follow `run`. -/
def Host.ReadsRun (host : Host) : Prop :=
  ∀ {args names nested stream}, Command.Accepts args names nested stream →
    host.read ("run" :: args) = .command (.run names nested stream)

theorem Host.standalone_readsRun : standalone.ReadsRun := by
  intro args names nested stream h
  have hread := Command.ofArgs?_run_eq_some_iff.2 ⟨names, nested, stream, h, rfl⟩
  exact congrArg Reading.ofCommand? hread

end WhileLang
