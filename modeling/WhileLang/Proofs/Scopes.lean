import WhileLang.Proofs.Kinds
import WhileLang.Stmt.Exec

namespace WhileLang

/-- The frames of the open scopes. There is always one, and those around the innermost one follow
from the inside out. -/
structure Scopes where
  top : Store
  below : List Store

/-- The value of a name in the first frame that binds it. -/
def lookup (x : String) : List Store → Option Value
  | [] => none
  | f :: fs => (f.get? x).or (lookup x fs)

def rebindFirst (x : String) (v : Value) : List Store → List Store
  | [] => []
  | f :: fs => if f.contains x then f.declare x v :: fs else f :: rebindFirst x v fs

namespace Scopes

def frames (F : Scopes) : List Store :=
  F.top :: F.below

def get? (F : Scopes) (x : String) : Option Value :=
  lookup x F.frames

def value (F : Scopes) (x : String) : Value :=
  (F.get? x).getD .undefined

def declare (F : Scopes) (x : String) (v : Value) : Scopes :=
  ⟨F.top.declare x v, F.below⟩

def rebind (F : Scopes) (x : String) (v : Value) : Scopes :=
  if F.top.contains x then F.declare x v else ⟨F.top, rebindFirst x v F.below⟩

/-- Rebind a name where it is bound, to a value of the kind it holds. -/
def assign (F : Scopes) (x : String) (v : Value) : Except Fault Scopes :=
  match F.get? x with
  | none => .error (.undeclared x)
  | some w =>
    if w.sameKind v then .ok (F.rebind x v) else .error (.kindMismatch x w.kind v.kind)

def push (F : Scopes) : Scopes :=
  ⟨.empty, F.frames⟩

/-- Close the innermost scope; the outermost one stays. -/
def pop : Scopes → Scopes
  | ⟨_, f :: fs⟩ => ⟨f, fs⟩
  | F => F

end Scopes

def Expr.evalIn (F : Scopes) (e : Expr) : Value :=
  e.denote F.value

variable {σ : Type} [Sink σ]

def inScope (body : Machine σ → Scopes → Option (Machine σ × Scopes)) (m : Machine σ)
    (F : Scopes) : Option (Machine σ × Scopes) :=
  (body m F.push).map fun r => (r.1, r.2.pop)

/-- Run the branch that a condition chooses in a scope of its own. The condition is evaluated
outside of it. -/
def branchIn (c : Expr) (yes no : Machine σ → Scopes → Option (Machine σ × Scopes))
    (m : Machine σ) (F : Scopes) : Option (Machine σ × Scopes) :=
  match c.evalIn F with
  | .bool true => inScope yes m F
  | .bool false => inScope no m F
  | v => some (m.report (.condition "if" c v.kind), F)

def roundIn (c : Expr) (body : Machine σ → Scopes → Option (Machine σ × Scopes)) :
    Machine σ × Scopes → Option (Round (Machine σ × Scopes))
  | (m, F) =>
    match c.evalIn F with
    | .bool true => (inScope body m F).map .again
    | .bool false => some (.done (m, F))
    | v => some (.done (m.report (.condition "while" c v.kind), F))

namespace Stmt

/-- Run a statement with lexical scoping: nothing is copied and nothing is merged. -/
def execIn (bound : Nat) : Stmt → Machine σ → Scopes → Option (Machine σ × Scopes)
  | seq s t, m, F => (s.execIn bound m F).bind fun r => t.execIn bound r.1 r.2
  | declare x e, m, F => some (m, F.declare x (e.evalIn F))
  | assign x e, m, F =>
    match F.assign x (e.evalIn F) with
    | .ok F => some (m, F)
    | .error fault => some (m.report ⟨fault, (assign x e).text⟩, F)
  | whileDo c body, m, F => iterate (roundIn c (body.execIn bound)) bound (m, F)
  | ifElse c s t, m, F => branchIn c (s.execIn bound) (t.execIn bound) m F
  | print e, m, F => some (m.printValue (e.evalIn F), F)
  | block s, m, F => s.execIn bound m F

def RunsIn (s : Stmt) (m : Machine σ) (F : Scopes) (r : Machine σ × Scopes) : Prop :=
  ∃ bound, s.execIn bound m F = some r

/-- The run of a statement, which need not end, comes to declare `x` while the scopes `G` are
open. -/
inductive Declares : Stmt → Machine σ → Scopes → String → Scopes → Prop
  | declare {x e m F} : Declares (.declare x e) m F x F
  | seqLeft {s t m F x G} (h : Declares s m F x G) : Declares (.seq s t) m F x G
  | seqRight {s t m F m₁ F₁ x G} (hs : s.RunsIn m F (m₁, F₁)) (h : Declares t m₁ F₁ x G) :
    Declares (.seq s t) m F x G
  | body {c s m F x G} (hc : c.evalIn F = .bool true) (h : Declares s m F.push x G) :
    Declares (.whileDo c s) m F x G
  | round {c s m F m₁ F₁ x G} (hc : c.evalIn F = .bool true) (hs : s.RunsIn m F.push (m₁, F₁))
    (h : Declares (.whileDo c s) m₁ F₁.pop x G) : Declares (.whileDo c s) m F x G
  | yes {c s t m F x G} (hc : c.evalIn F = .bool true) (h : Declares s m F.push x G) :
    Declares (.ifElse c s t) m F x G
  | no {c s t m F x G} (hc : c.evalIn F = .bool false) (h : Declares t m F.push x G) :
    Declares (.ifElse c s t) m F x G
  | block {s m F x G} (h : Declares s m F x G) : Declares (.block s) m F x G

/-- No declaration of the run names a variable that is bound below the innermost scope. -/
def NeverShadows (s : Stmt) (m : Machine σ) (F : Scopes) : Prop :=
  ∀ x G, s.Declares m F x G → ∀ f ∈ G.below, f.get? x = none

end Stmt

end WhileLang
