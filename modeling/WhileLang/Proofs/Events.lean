import WhileLang.Machine

namespace WhileLang.Machine

variable {σ : Type} [Sink σ] {P Q : Event → Prop} {m m₁ m₂ : Machine σ}

/-- Leave one event, and count it if it is a diagnostic. -/
def record (m : Machine σ) : Event → Machine σ
  | .line text => ⟨emit m.out (.line text), m.diagnostics⟩
  | .diagnostic d => ⟨emit m.out (.diagnostic d), m.diagnostics + 1⟩

def feed (m : Machine σ) (events : List Event) : Machine σ :=
  events.foldl record m

theorem feed_append (m : Machine σ) (es fs : List Event) :
    m.feed (es ++ fs) = (m.feed es).feed fs :=
  List.foldl_append

/-- From the first machine to the second one only events that `P` allows are left. -/
def Emits (P : Event → Prop) (m m' : Machine σ) : Prop :=
  ∃ es, m' = m.feed es ∧ ∀ e ∈ es, P e

theorem Emits.refl (P : Event → Prop) (m : Machine σ) : m.Emits P m :=
  ⟨[], rfl, fun _ h => absurd h List.not_mem_nil⟩

theorem Emits.trans (h : m.Emits P m₁) (h' : m₁.Emits P m₂) : m.Emits P m₂ := by
  obtain ⟨es, rfl, hes⟩ := h
  obtain ⟨fs, rfl, hfs⟩ := h'
  have hall : ∀ e ∈ es ++ fs, P e := by
    intro e he
    rcases List.mem_append.1 he with he | he
    · exact hes e he
    · exact hfs e he
  exact ⟨es ++ fs, (m.feed_append es fs).symm, hall⟩

theorem Emits.record {e : Event} (m : Machine σ) (h : P e) : m.Emits P (m.record e) :=
  ⟨[e], rfl, fun _ hf => List.mem_singleton.1 hf ▸ h⟩

theorem printValue_eq_record (m : Machine σ) (v : Value) :
    m.printValue v = m.record (.line v.text) := rfl

end WhileLang.Machine
