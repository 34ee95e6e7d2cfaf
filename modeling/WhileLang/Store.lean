import Std.Data.ExtTreeMap
import WhileLang.Fault

namespace WhileLang

/-- The variables of one scope with their values. A nested scope is a store of its own that starts
as a copy, and `reconcile` brings it back; nothing points to an enclosing scope. -/
@[ext] structure Store where
  bindings : Std.ExtTreeMap String Value

namespace Store

instance : DecidableEq Store := fun _ _ => decidable_of_iff _ Store.ext_iff.symm

def empty : Store := ⟨∅⟩

/-- Of two entries with one name the later one counts. -/
def ofList (entries : List (String × Value)) : Store :=
  ⟨(∅ : Std.ExtTreeMap String Value).insertMany entries⟩

/-- The bindings by name, in the order of code points. -/
def toList (s : Store) : List (String × Value) :=
  s.bindings.toList

def get? (s : Store) (x : String) : Option Value :=
  s.bindings[x]?

def contains (s : Store) (x : String) : Bool :=
  (s.get? x).isSome

def size (s : Store) : Nat :=
  s.bindings.size

def isEmpty (s : Store) : Bool :=
  s.bindings.isEmpty

theorem ext_get? {s t : Store} (h : ∀ x, s.get? x = t.get? x) : s = t :=
  Store.ext (Std.ExtTreeMap.ext_getElem? h)

@[simp] theorem get?_empty (x : String) : empty.get? x = none := by
  simp [empty, get?]

@[simp] theorem contains_empty (x : String) : empty.contains x = false := by
  simp [contains]

/-- Bind a name, whatever it was bound to before. -/
def declare (s : Store) (x : String) (v : Value) : Store :=
  ⟨s.bindings.insert x v⟩

theorem get?_declare (s : Store) (x y : String) (v : Value) :
    (s.declare x v).get? y = if x = y then some v else s.get? y := by
  simp [declare, get?, Std.ExtTreeMap.getElem?_insert]

/-- Rebind a name that is bound already, to a value of the kind it holds. -/
def assign (s : Store) (x : String) (v : Value) : Except Fault Store :=
  match s.get? x with
  | none => .error (.undeclared x)
  | some w => if w.sameKind v then .ok (s.declare x v) else .error (.kindMismatch x w.kind v.kind)

/-- The value an outer variable takes from a nested scope: the inner one if it is another value of
the same kind, else its own. -/
def settle (outer : Value) : Option Value → Value
  | some inner => if inner ≠ outer ∧ inner.sameKind outer then inner else outer
  | none => outer

@[simp] theorem settle_none (v : Value) : settle v none = v := rfl

theorem settle_some (v w : Value) : settle v (some w) = if w.kind = v.kind then w else v := by
  by_cases h : w = v <;> simp [settle, h]

theorem kind_settle (v : Value) (w : Option Value) : (settle v w).kind = v.kind := by
  cases w with
  | none => rfl
  | some w =>
    rw [settle_some]
    split
    · assumption
    · rfl

/-- The outer names, each with the value it settles on after the nested scope `inner`. -/
def merge (outer inner : Store) : Store :=
  ⟨outer.bindings.map fun x v => settle v (inner.get? x)⟩

theorem get?_merge (outer inner : Store) (x : String) :
    (outer.merge inner).get? x = (outer.get? x).map fun v => settle v (inner.get? x) :=
  Std.ExtTreeMap.getElem?_map

/-- Copy the value of every own name that `merged` binds. -/
def absorb (s merged : Store) : Store :=
  ⟨s.bindings.map fun x v => (merged.get? x).getD v⟩

theorem get?_absorb (s merged : Store) (x : String) :
    (s.absorb merged).get? x = (s.get? x).map fun v => (merged.get? x).getD v :=
  Std.ExtTreeMap.getElem?_map

/-- Leave a nested scope: assignments to outer variables stay, declarations and changes of kind do
not. -/
def reconcile (outer inner : Store) : Store :=
  outer.absorb (outer.merge inner)

/-- Merging has settled every outer name already, so that absorbing adds nothing. -/
theorem reconcile_eq_merge (outer inner : Store) : outer.reconcile inner = outer.merge inner := by
  apply ext_get?
  intro x
  rw [reconcile, get?_absorb, get?_merge]
  cases outer.get? x <;> rfl

end Store

end WhileLang
