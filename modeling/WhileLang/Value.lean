namespace WhileLang

/-- The tag of a value. Assigning to a variable keeps its kind; only a declaration changes it. -/
inductive Kind where
  | int
  | bool
  | undefined
  deriving DecidableEq

def Kind.text : Kind → String
  | .int => "Int"
  | .bool => "Bool"
  | .undefined => "Undefined"

/-- What an expression evaluates to. `undefined` is an ordinary result and not a failure: operands
of the wrong kinds give it. -/
inductive Value where
  | int (n : Int64)
  | bool (b : Bool)
  | undefined
  deriving DecidableEq

def Value.kind : Value → Kind
  | .int _ => .int
  | .bool _ => .bool
  | .undefined => .undefined

def Value.sameKind (v w : Value) : Bool :=
  v.kind = w.kind

@[simp] theorem Value.sameKind_iff {v w : Value} : v.sameKind w ↔ v.kind = w.kind := by
  simp [Value.sameKind]

/-- Decimal digits after an optional minus sign. -/
def decimal (n : Int64) : String :=
  n.toInt.repr

def boolText : Bool → String
  | true => "true"
  | false => "false"

def Value.text : Value → String
  | .int n => decimal n
  | .bool b => boolText b
  | .undefined => "Undefined"

end WhileLang
