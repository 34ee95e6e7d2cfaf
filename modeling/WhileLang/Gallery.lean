import WhileLang.Program

namespace WhileLang.Gallery

structure Exhibit where
  name : String
  description : String
  program : Program

def fib : Program where
  body := Stmt.chain (.declare "prev" (.num (-1))) [
    .declare "result" (.num 1),
    .whileDo (.binary .lt (.var "result") (.num 50))
      (Stmt.chain (.declare "sum" (.binary .add (.var "prev") (.var "result"))) [
        .assign "prev" (.var "result"),
        .assign "result" (.var "sum"),
        .print (.var "result")])]

def multiply : Program where
  body := Stmt.chain (.declare "x" (.num 2)) [
    .declare "y" (.binary .mul (.var "x") (.num 3)),
    .print (.var "y")]

def countToThree : Program where
  body := Stmt.chain (.declare "x" (.num 0)) [
    .whileDo (.binary .lt (.var "x") (.num 3))
      (Stmt.chain (.print (.var "x")) [.assign "x" (.binary .add (.var "x") (.num 1))])]

/-- The two branches that the programs on the scope of branches share. -/
def scopingBranches (c : Expr) : Stmt :=
  .ifElse c
    (Stmt.chain (.assign "x" (.binary .add (.var "x") (.num 10))) [
      .declare "y" (.num 7),
      .declare "z" (.bool false)])
    (Stmt.chain (.declare "y" (.num 7)) [
      .declare "x" (.binary .mul (.num 7) (.var "y")),
      .declare "z" (.num 1),
      .assign "x" (.binary .add (.var "x") (.var "z"))])

/-- Branch on `c` with an integer `x` and a truth value `y`, and show what the branch leaves. -/
def branchProgram (c : Expr) : Program where
  body := Stmt.chain (.declare "x" (.num 1)) [
    .declare "y" (.bool true),
    scopingBranches c,
    .print (.var "x"),
    .print (.var "y"),
    .print (.var "z")]

def ifScoping : Program :=
  branchProgram
    (.binary .or (.binary .eq (.var "x") (.num 0))
      (.binary .eq (.not (.var "y")) (.bool false)))

/-- The right operand is undefined, but the left one decides. -/
def andShortCircuit : Program :=
  branchProgram
    (.binary .and (.binary .eq (.var "x") (.num 0)) (.binary .eq (.var "y") (.num 0)))

def whileScoping : Program where
  body := Stmt.chain (.declare "i" (.num 0)) [
    .declare "j" (.num 5),
    .whileDo (.binary .lt (.var "i") (.var "j"))
      (Stmt.chain (.assign "i" (.binary .add (.var "i") (.num 1))) [
        .declare "j" (.bool true),
        .print (.var "i"),
        .print (.var "j")])]

def assignKindMismatch : Program where
  body := Stmt.chain (.declare "x" (.num 4)) [
    .assign "x" (.bool false),
    .print (.var "x")]

def redeclareKind : Program where
  body := Stmt.chain (.declare "x" (.num 4)) [
    .declare "x" (.bool false),
    .print (.var "x")]

def undeclared : Program where
  body := .print (.var "x")

def equalKindMismatch : Program where
  body := Stmt.chain (.declare "x" (.num 4)) [
    .whileDo (.binary .eq (.var "x") (.bool true)) (.print (.var "x"))]

def assignBoolToInt : Program where
  body := Stmt.chain (.declare "x" (.num 5)) [.assign "x" (.bool true)]

def redeclareFromExpression : Program where
  body := Stmt.chain (.declare "x" (.num 5)) [
    .declare "x" (.group (.binary .lt (.var "x") (.num 10))),
    .print (.var "x")]

def programs : List Exhibit := [
  ⟨"fib", "fibonacci numbers below 50, a loop-local sum", fib⟩,
  ⟨"multiply", "declarations and print", multiply⟩,
  ⟨"count_to_three", "while loop assigning its counter", countToThree⟩,
  ⟨"if_scoping", "if-then-else scoping with || and negation", ifScoping⟩,
  ⟨"and_short_circuit", "if-then-else scoping with a && that returns early", andShortCircuit⟩,
  ⟨"while_scoping", "while loop scoping: assignments leak, re-declarations do not", whileScoping⟩,
  ⟨"assign_kind_mismatch", "assigning a bool to an int is skipped", assignKindMismatch⟩,
  ⟨"redeclare_kind", "re-declaring a variable with another kind", redeclareKind⟩,
  ⟨"undeclared", "printing a variable that was never declared", undeclared⟩,
  ⟨"equal_kind_mismatch", "while condition comparing an int with a bool", equalKindMismatch⟩,
  ⟨"assign_bool_to_int", "assignment changing kind without a print", assignBoolToInt⟩,
  ⟨"redeclare_from_expression", "re-declaring a variable from an expression using it",
    redeclareFromExpression⟩]

def expressions : List (String × Expr) := [
  ("arith", .binary .add (.binary .mul (.num 1) (.num 2)) (.num 0)),
  ("and_mixed", .binary .and (.bool false) (.num 0)),
  ("or_mixed", .binary .or (.bool false) (.num 0)),
  ("nested_comparison",
    .not (.not (.binary .eq (.binary .lt (.num 3) (.num 5)) (.binary .lt (.num 1) (.num 10)))))]

def find? (name : String) : Option Exhibit :=
  programs.find? fun e => e.name = name

/-- The exhibits that the names choose, in their order. No names choose all; the first name that
there is no exhibit for is the error. -/
def select (names : List String) : Except String (List Exhibit) :=
  if names.isEmpty then .ok programs
  else names.mapM fun name =>
    match find? name with
    | some e => .ok e
    | none => .error name

end WhileLang.Gallery
