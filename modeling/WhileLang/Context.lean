import Std.Data.ExtTreeMap
import WhileLang.Ty

namespace WhileLang

/-- The types recorded for the variables seen so far. -/
@[ext] structure Context where
  types : Std.ExtTreeMap String Ty

namespace Context

instance : DecidableEq Context := fun _ _ => decidable_of_iff _ Context.ext_iff.symm

def empty : Context := ⟨∅⟩

/-- Of two entries with one name the later one counts. -/
def ofList (entries : List (String × Ty)) : Context :=
  ⟨(∅ : Std.ExtTreeMap String Ty).insertMany entries⟩

/-- The recorded types by name, in the order of code points. -/
def toList (Γ : Context) : List (String × Ty) :=
  Γ.types.toList

def get? (Γ : Context) (x : String) : Option Ty :=
  Γ.types[x]?

def contains (Γ : Context) (x : String) : Bool :=
  (Γ.get? x).isSome

def size (Γ : Context) : Nat :=
  Γ.types.size

def isEmpty (Γ : Context) : Bool :=
  Γ.types.isEmpty

theorem ext_get? {Γ Δ : Context} (h : ∀ x, Γ.get? x = Δ.get? x) : Γ = Δ :=
  Context.ext (Std.ExtTreeMap.ext_getElem? h)

theorem contains_iff_exists {Γ : Context} {x : String} :
    Γ.contains x ↔ ∃ τ, Γ.get? x = some τ :=
  Option.isSome_iff_exists

@[simp] theorem get?_empty (x : String) : empty.get? x = none := by
  simp [empty, get?]

@[simp] theorem contains_empty (x : String) : empty.contains x = false := by
  simp [contains]

/-- Record a type, whatever was recorded before. -/
def declare (Γ : Context) (x : String) (τ : Ty) : Context :=
  ⟨Γ.types.insert x τ⟩

theorem get?_declare (Γ : Context) (x y : String) (τ : Ty) :
    (Γ.declare x τ).get? y = if x = y then some τ else Γ.get? y := by
  simp [declare, get?, Std.ExtTreeMap.getElem?_insert]

theorem contains_declare (Γ : Context) (x y : String) (τ : Ty) :
    (Γ.declare x τ).contains y ↔ x = y ∨ Γ.contains y := by
  rw [contains, get?_declare]
  by_cases h : x = y <;> simp [h, contains]

end Context

end WhileLang
