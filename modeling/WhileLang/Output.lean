import WhileLang.Diagnostic

namespace WhileLang

/-- What a run shows: the line of a `print`, or the diagnostic of an assignment that is skipped or
of a condition that is no truth value. -/
inductive Event where
  | line (text : String)
  | diagnostic (d : Diagnostic)
  deriving DecidableEq

namespace Event

def text : Event → String
  | line s => s
  | diagnostic d => d.text

def line? : Event → Option String
  | line s => some s
  | diagnostic _ => none

def diagnostic? : Event → Option Diagnostic
  | line _ => none
  | diagnostic d => some d

end Event

/-- Where a run leaves its events, one at a time and in order. -/
class Sink (σ : Type) where
  emit : σ → Event → σ

export Sink (emit)

/-- Keeps the events. -/
structure Log where
  events : Array Event
  deriving DecidableEq

namespace Log

instance : Sink Log where
  emit log event := ⟨log.events.push event⟩

def empty : Log := ⟨#[]⟩

def lines (log : Log) : List String :=
  log.events.toList.filterMap Event.line?

def diagnostics (log : Log) : List Diagnostic :=
  log.events.toList.filterMap Event.diagnostic?

end Log

/-- Writes every event out at once, on a line of its own. -/
structure Transcript where
  text : String
  deriving DecidableEq

namespace Transcript

def empty : Transcript := ⟨""⟩

def writeLine (t : Transcript) (line : String) : Transcript :=
  ⟨t.text ++ line ++ "\n"⟩

instance : Sink Transcript where
  emit t event := t.writeLine event.text

end Transcript

end WhileLang
