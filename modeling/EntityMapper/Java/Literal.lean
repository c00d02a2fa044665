/-!
# String literals

How a text is written as a string literal: backslashes and double quotes are escaped, and all other
characters stand for themselves.
-/

namespace EntityMapper.Java

/-- A character inside a string literal. -/
def escaped (c : Char) : List Char :=
  if c = '\\' ∨ c = '"' then ['\\', c] else [c]

/-- A text as a string literal. -/
def literal (s : String) : String :=
  String.ofList ('"' :: s.toList.flatMap escaped ++ ['"'])

end EntityMapper.Java
