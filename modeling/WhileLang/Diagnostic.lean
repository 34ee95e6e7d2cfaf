import WhileLang.Fault
import WhileLang.Text.FirstLine

namespace WhileLang

/-- A fault with the text of the code it was found in. -/
structure Diagnostic where
  fault : Fault
  snippet : String
  deriving DecidableEq

def Diagnostic.header (d : Diagnostic) : String :=
  "Error: " ++ d.fault.title ++
    match d.fault.tip? with
    | some tip => " (" ++ tip ++ ")"
    | none => ""

/-- The header, and below it the first line of the code if there is any. -/
def Diagnostic.text (d : Diagnostic) : String :=
  if d.snippet.isEmpty then d.header else d.header ++ "\n-> " ++ Text.firstLine d.snippet

end WhileLang
