namespace WhileLang.Text

/-- A line that ends at a line feed loses one carriage return right before it. -/
def dropReturn (line : List Char) : List Char :=
  if line.getLast? = some '\r' then line.dropLast else line

/-- The text up to its first line feed. Only a line feed ends a line, and a text without one is its
own first line. -/
def firstLine (s : String) : String :=
  if '\n' ∈ s.toList then String.ofList (dropReturn (s.toList.takeWhile (· ≠ '\n'))) else s

end WhileLang.Text
