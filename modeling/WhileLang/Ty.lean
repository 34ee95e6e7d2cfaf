namespace WhileLang

/-- The static types. `illTyped` is the type of an expression that has no other; inference passes it
upward instead of stopping. -/
inductive Ty where
  | int
  | bool
  | illTyped
  deriving DecidableEq

def Ty.text : Ty → String
  | .int => "Int"
  | .bool => "Bool"
  | .illTyped => "Illtyped"

end WhileLang
