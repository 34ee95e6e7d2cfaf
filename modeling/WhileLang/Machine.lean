import WhileLang.Output

namespace WhileLang

/-- What execution carries along beside the store: where its events go, and how many of them were
diagnostics. The number of printed lines would only be logged, and is not kept. -/
structure Machine (σ : Type) where
  out : σ
  diagnostics : Nat

namespace Machine

variable {σ : Type} [Sink σ]

def start (out : σ) : Machine σ := ⟨out, 0⟩

def printValue (m : Machine σ) (v : Value) : Machine σ :=
  ⟨emit m.out (.line v.text), m.diagnostics⟩

def report (m : Machine σ) (d : Diagnostic) : Machine σ :=
  ⟨emit m.out (.diagnostic d), m.diagnostics + 1⟩

end Machine

end WhileLang
