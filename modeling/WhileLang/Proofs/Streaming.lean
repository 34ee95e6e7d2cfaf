import WhileLang.Command
import WhileLang.Proofs.Replay

namespace WhileLang

namespace Transcript

/-- Lines as they are written out, each with its end. -/
def unlines (lines : List String) : String :=
  String.join (lines.map fun line => line ++ "\n")

theorem text_writeLines (t : Transcript) (lines : List String) :
    (t.writeLines lines).text = t.text ++ unlines lines := by
  induction lines generalizing t with
  | nil => exact String.append_empty.symm
  | cons line lines ih =>
    rw [unlines, List.map_cons, String.join_cons, ← String.append_assoc, ← String.append_assoc]
    exact ih (t.writeLine line)

theorem writeLines_append (t : Transcript) (lines lines' : List String) :
    t.writeLines (lines ++ lines') = (t.writeLines lines).writeLines lines' :=
  List.foldl_append

theorem foldl_emit (t : Transcript) (es : List Event) :
    es.foldl emit t = t.writeLines (es.map Event.text) := by
  rw [writeLines, List.foldl_map]
  rfl

theorem writeReport_eq (t : Transcript) (name : String) (r : Report) :
    t.writeReport name r = t.writeLines (
      ["", "EXAMPLE: " ++ name, "CODE FROM AST:", r.code, "",
        "TYPE CHECK: " ++ boolText r.checked.verdict, "", "RUNTIME RESULT:"] ++
      r.log.events.toList.map Event.text ++
      ["", "**************************"]) := by
  rw [writeLines_append, writeLines_append, ← foldl_emit, Array.foldl_toList]
  rfl

theorem stream_eq_map (bound : Nat) (sc : Scoping) (t : Transcript) (name : String) (p : Program) :
    t.stream bound sc name p = (p.report bound sc).map (t.writeReport name) := by
  rw [stream, Program.run_eq_trace, Program.report_eq_trace, Option.map_map]
  cases p.body.trace bound .empty with
  | none => rfl
  | some r =>
    have hevents := List.foldl_toArray emit (t.header name p.text (p.check sc .empty).verdict) r.1
    exact congrArg (fun t' => some t'.trailer) hevents.symm

/-- Showing a program while it runs writes what writing its report afterwards does, and both end
when the program does. The text is the header, that of every event of the run and the trailer, each
on lines of its own. -/
theorem stream_eq_report {p : Program} {m : Machine Log} {env : Store}
    (h : p.body.Runs (.start Log.empty) .empty (m, env)) (t : Transcript) (sc : Scoping)
    (name : String) :
    (∀ bound, t.stream bound sc name p = (p.report bound sc).map (t.writeReport name)) ∧
      ∃ bound, t.stream bound sc name p = some ⟨t.text ++ unlines (
        ["", "EXAMPLE: " ++ name, "CODE FROM AST:", p.text, "",
          "TYPE CHECK: " ++ boolText (p.check sc .empty).verdict, "", "RUNTIME RESULT:"] ++
        m.out.events.toList.map Event.text ++
        ["", "**************************"])⟩ := by
  refine ⟨fun bound => t.stream_eq_map bound sc name p, ?_⟩
  obtain ⟨bound, hbound⟩ := h
  have htrace : p.body.trace bound .empty = some (m.out.events.toList, env) := by
    rw [Stmt.trace, hbound, Option.map_some]
  refine ⟨bound, ?_⟩
  rw [stream_eq_map, Program.report_eq_trace, htrace, Option.map_some, Option.map_some,
    writeReport_eq, ← text_writeLines]

theorem stream_eq_report_assignKindMismatch :
    let p := Gallery.assignKindMismatch
    ∃ m env, p.body.Runs (.start Log.empty) .empty (m, env) ∧
      m.out.events.toList.map Event.text =
        ["Error: AssignmentKindMismatch (Variable `x` holds `Int`, received `Bool`; " ++
          "re-declare it to change its kind)\n-> x = false", "4"] ∧
      (∀ bound, Transcript.empty.stream bound .nested "kinds" p =
        (p.report bound .nested).map (Transcript.empty.writeReport "kinds")) ∧
      ∃ bound, Transcript.empty.stream bound .nested "kinds" p = some ⟨"" ++ unlines (
        ["", "EXAMPLE: kinds", "CODE FROM AST:", p.text, "", "TYPE CHECK: false", "",
          "RUNTIME RESULT:"] ++ m.out.events.toList.map Event.text ++
          ["", "**************************"])⟩ := by
  intro p
  have h : p.body.Runs (.start Log.empty) .empty (_, _) := ⟨1, rfl⟩
  obtain ⟨hreport, hstream⟩ := stream_eq_report h .empty .nested "kinds"
  exact ⟨_, _, h, by decide, hreport, hstream⟩

end Transcript

namespace Command

theorem showExhibit_stream (bound : Nat) (sc : Scoping) :
    showExhibit bound sc true = showExhibit bound sc false :=
  funext fun t => funext fun e => t.stream_eq_map bound sc e.name e.program

theorem perform_stream (bound : Nat) (names : List String) (nested : Bool) :
    (run names nested true).perform bound = (run names nested false).perform bound := by
  rw [perform, perform, showExhibit_stream]

end Command

end WhileLang
