import WhileLang.Expr.Printer
import WhileLang.Stmt.Basic

namespace WhileLang

def braces (body : String) : String :=
  "\x7b\n" ++ body ++ "\n\x7d"

def Stmt.text : Stmt → String
  | .seq s t => s.text ++ ";\n" ++ t.text
  | .declare x e => x ++ " := " ++ e.text
  | .assign x e => x ++ " = " ++ e.text
  | .whileDo c body => "while " ++ c.text ++ braces body.text
  | .ifElse c s t => "if " ++ c.text ++ braces s.text ++ " else " ++ braces t.text
  | .print e => "print " ++ e.text
  | .block s => braces s.text

end WhileLang
