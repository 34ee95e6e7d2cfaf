import WhileLang.Arguments
import WhileLang.Gallery
import WhileLang.Report

namespace WhileLang

/-- What the program leaves behind when it exits. -/
structure Outcome where
  exit : UInt32
  stdout : String
  stderr : String
  deriving DecidableEq

namespace Outcome

def success (t : Transcript) : Outcome := ⟨0, t.text, ""⟩

def unknownExample (name : String) : Outcome :=
  ⟨1, "", "Unknown example `" ++ name ++ "`, see `scopewalk list`\n"⟩

/-- With something on stderr before what is there already. -/
def logging (log : String) (o : Outcome) : Outcome :=
  ⟨o.exit, o.stdout, log ++ o.stderr⟩

theorem logging_empty (o : Outcome) : o.logging "" = o := by
  rw [logging, String.empty_append]

end Outcome

namespace Command

/-- The column at which the descriptions of a listing start. -/
def nameWidth : Nat := 28

def listing : Transcript :=
  Transcript.empty.writeLines (Gallery.programs.map fun e =>
    e.name ++ "".pushn ' ' (nameWidth - e.name.length) ++ e.description)

def expressions : Transcript :=
  Gallery.expressions.foldl (fun t e => t.writeExpr e.1 e.2.report) .empty

/-- Show one exhibit, while it runs or afterwards. -/
def showExhibit (bound : Nat) (sc : Scoping) (stream : Bool) (t : Transcript)
    (e : Gallery.Exhibit) : Option Transcript :=
  if stream then t.stream bound sc e.name e.program
  else (e.program.report bound sc).map (t.writeReport e.name)

/-- What a command itself writes. Every name is looked up before anything runs. -/
def perform (bound : Nat) : Command → Option Outcome
  | list => some (.success listing)
  | exprs => some (.success expressions)
  | run names nested stream =>
    match Gallery.select names with
    | .error name => some (.unknownExample name)
    | .ok exhibits =>
      (exhibits.foldlM (showExhibit bound (if nested then .nested else .flat) stream)
        Transcript.empty).map .success

end Command

/-- What the reader of the arguments makes of them: a command, or an end of the program that is not
the program's own, as on a request for help or on arguments that are refused. -/
inductive Reading where
  | command (c : Command)
  | ended (o : Outcome)

/-- Whatever is no command ends the program without a word. -/
def Reading.ofCommand? : Option Command → Reading
  | some c => .command c
  | none => .ended ⟨2, "", ""⟩

/-- What the program relies on without defining it: the reader of its arguments, and on stderr a
log of what it does while it runs on them, which is kept only if the environment sets a filter. -/
structure Host where
  read : List String → Reading
  logFilter : Option String
  log : String → List String → String

namespace Host

def logged (host : Host) (args : List String) : String :=
  match host.logFilter with
  | some filter => host.log filter args
  | none => ""

/-- The whole program as a function of its arguments. -/
def outcome (host : Host) (bound : Nat) (args : List String) : Option Outcome :=
  match host.read args with
  | .command c => (c.perform bound).map (.logging (host.logged args))
  | .ended o => some (.logging (host.logged args) o)

/-- A host that knows the three commands, but no requests for help, and logs nothing. -/
def standalone : Host where
  read args := .ofCommand? (Command.ofArgs? args)
  logFilter := none
  log _ _ := ""

end Host

/-- The program on the host that it comes with. -/
def outcome (bound : Nat) (args : List String) : Option Outcome :=
  Host.standalone.outcome bound args

end WhileLang
