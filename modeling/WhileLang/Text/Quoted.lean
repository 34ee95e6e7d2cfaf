import WhileLang.Text.Unprintable
import WhileLang.Text.CombiningMark
import WhileLang.Text.DefaultIgnorable

namespace WhileLang.Text

/-- A character by its number, in lower-case hexadecimal digits without leading zeros. -/
def unicodeEscape (c : Char) : List Char :=
  '\\' :: 'u' :: '\x7b' :: Nat.toDigits 16 c.toNat ++ ['\x7d']

/-- Whether a character would be invisible or join its neighbour if it stood for itself. -/
def needsEscape (c : Char) : Bool :=
  isCombiningMark c || isDefaultIgnorable c || isUnprintable c

/-- The characters that stand for `c` between double quotes. -/
def escape (c : Char) : List Char :=
  match c with
  | '\x00' => ['\\', '0']
  | '\t' => ['\\', 't']
  | '\r' => ['\\', 'r']
  | '\n' => ['\\', 'n']
  | '"' => ['\\', '"']
  | '\\' => ['\\', '\\']
  | c => if needsEscape c then unicodeEscape c else [c]

/-- A text between double quotes in which nothing is invisible and nothing joins its neighbour. -/
def quoted (s : String) : String :=
  String.ofList ('"' :: s.toList.flatMap escape ++ ['"'])

end WhileLang.Text
