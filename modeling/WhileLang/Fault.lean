import WhileLang.Value
import WhileLang.Text.Quoted

namespace WhileLang

/-- What can go wrong without stopping a run, and the one way in which building a program fails. -/
inductive Fault where
  | undeclared (x : String)
  | kindMismatch (x : String) (expected received : Kind)
  | nonBoolean (construct : String) (received : Kind)
  | emptySequence
  deriving DecidableEq

namespace Fault

def title : Fault → String
  | undeclared _ => "AssignmentToUndeclared"
  | kindMismatch _ _ _ => "AssignmentKindMismatch"
  | nonBoolean _ _ => "NonBooleanCondition"
  | emptySequence => "EmptySequence"

/-- A message shows a variable in quotes, so that the message says which one it is whatever its name
contains. -/
def message : Fault → String
  | undeclared x => "assignment to undeclared variable " ++ Text.quoted x
  | kindMismatch x expected received =>
    "assignment to " ++ Text.quoted x ++ " changes its kind: expected " ++ expected.text ++
      ", received " ++ received.text
  | nonBoolean construct received =>
    construct ++ " condition is not a boolean: received " ++ received.text
  | emptySequence => "cannot build a statement sequence from zero statements"

def tip? : Fault → Option String
  | undeclared x =>
    some ("Variable `" ++ x ++ "` is not declared, did you mean `" ++ x ++ " := ...`?")
  | kindMismatch x expected received =>
    some ("Variable `" ++ x ++ "` holds `" ++ expected.text ++ "`, received `" ++ received.text ++
      "`; re-declare it to change its kind")
  | nonBoolean construct received =>
    some ("The `" ++ construct ++ "` condition evaluated to `" ++ received.text ++
      "`, expected `Bool`")
  | emptySequence => none

end Fault

end WhileLang
