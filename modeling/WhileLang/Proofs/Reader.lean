import Std.Data.String.ToInt
import WhileLang.Expr.Printer
import WhileLang.Stmt.Basic

namespace WhileLang

def keywords : List String :=
  ["true", "false", "print", "while", "if", "else"]

def startsName (c : Char) : Bool :=
  c.isAlpha || c == '_'

def continuesName (c : Char) : Bool :=
  c.isAlphanum || c == '_'

/-- A letter or an underscore, then letters, digits and underscores, and no keyword. -/
structure IsName (x : String) : Prop where
  head : x.toList.head?.any startsName = true
  chars : x.toList.all continuesName = true
  not_keyword : x ∉ keywords

instance (x : String) : Decidable (IsName x) :=
  decidable_of_iff
    (x.toList.head?.any startsName = true ∧ x.toList.all continuesName = true ∧ x ∉ keywords)
    ⟨fun h => ⟨h.1, h.2.1, h.2.2⟩, fun h => ⟨h.head, h.chars, h.not_keyword⟩⟩

namespace Reader

/-- The characters of names, keywords and numbers. -/
def isWordChar (c : Char) : Bool :=
  c.isAlphanum || c = '_' || c = '-'

def expect (p : String) (cs : List Char) : Option (List Char) :=
  p.toList.isPrefixOf? cs

def operator (cs : List Char) : Option (BinOp × List Char) :=
  [.add, .mul, .or, .and, .eq, .lt].findSome? fun op : BinOp =>
    (expect op.symbol cs).map fun rest => (op, rest)

/-- A number starts with a digit or a minus sign, and every other word is a truth value or a
name. -/
def atom : List Char → Option Expr
  | [] => none
  | c :: cs =>
    let w := String.ofList (c :: cs)
    if c.isDigit ∨ c = '-' then w.toInt?.map fun n => .num (.ofInt n)
    else if w = "true" then some (.bool true)
    else if w = "false" then some (.bool false)
    else some (.var w)

/-- Read an expression that nests less than `n` deep, and return what follows it. -/
def expr : Nat → List Char → Option (Expr × List Char)
  | 0, _ => none
  | n + 1, '(' :: '!' :: cs => do
    let (e, cs) ← expr n cs
    let cs ← expect ")" cs
    return (.not e, cs)
  | n + 1, '(' :: cs => do
    let (l, cs) ← expr n cs
    match expect ")" cs with
    | some cs => return (.group l, cs)
    | none => do
      let (op, cs) ← operator cs
      let (r, cs) ← expr n cs
      let cs ← expect ")" cs
      return (.binary op l r, cs)
  | _ + 1, cs => do
    let e ← atom (cs.takeWhile isWordChar)
    return (e, cs.dropWhile isWordChar)

def body (stmt : List Char → Option (Stmt × List Char)) (cs : List Char) :
    Option (Stmt × List Char) := do
  let cs ← expect "\x7b\n" cs
  let (s, cs) ← stmt cs
  let cs ← expect "\n\x7d" cs
  return (s, cs)

/-- Read what follows the target of a declaration or an assignment. -/
def binding (expr : List Char → Option (Expr × List Char)) (x : String) (cs : List Char) :
    Option (Stmt × List Char) :=
  match expect " := " cs with
  | some cs => do
    let (e, cs) ← expr cs
    return (.declare x e, cs)
  | none => do
    let cs ← expect " = " cs
    let (e, cs) ← expr cs
    return (.assign x e, cs)

/-- Read what follows the first word of a statement. The word says which statement it is. -/
def afterWord (expr : List Char → Option (Expr × List Char))
    (stmt : List Char → Option (Stmt × List Char)) (w : String) (cs : List Char) :
    Option (Stmt × List Char) :=
  if w = "" then do
    let (s, cs) ← body stmt cs
    return (.block s, cs)
  else if w = "while" then do
    let cs ← expect " " cs
    let (c, cs) ← expr cs
    let (s, cs) ← body stmt cs
    return (.whileDo c s, cs)
  else if w = "if" then do
    let cs ← expect " " cs
    let (c, cs) ← expr cs
    let (s, cs) ← body stmt cs
    let cs ← expect " else " cs
    let (t, cs) ← body stmt cs
    return (.ifElse c s t, cs)
  else if w = "print" then do
    let cs ← expect " " cs
    let (e, cs) ← expr cs
    return (.print e, cs)
  else binding expr w cs

def line (expr : List Char → Option (Expr × List Char))
    (stmt : List Char → Option (Stmt × List Char)) (cs : List Char) :
    Option (Stmt × List Char) :=
  afterWord expr stmt (String.ofList (cs.takeWhile isWordChar)) (cs.dropWhile isWordChar)

/-- Read a statement. A sequence is read as one that nests to the right. -/
def stmt : Nat → List Char → Option (Stmt × List Char)
  | 0, _ => none
  | n + 1, cs => do
    let (s, cs) ← line (expr n) (stmt n) cs
    match expect ";\n" cs with
    | some cs => do
      let (t, cs) ← stmt n cs
      return (.seq s t, cs)
    | none => return (s, cs)

end Reader

end WhileLang
