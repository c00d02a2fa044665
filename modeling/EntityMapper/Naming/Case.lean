import EntityMapper.Naming.Words

/-!
# Camel case and Pascal case

The words of a name joined in camel case, where every word but the first begins with a capital, and
in Pascal case, where the first does as well.  A name that is in camel case already is kept, and so
is one that has no words.
-/

namespace EntityMapper.Naming

open Text

/-- A word with a capital first letter and the rest in lower case. -/
def titled : List Char → List Char
  | [] => []
  | c :: cs => upperChar c ++ lower cs

/-- Whether a name counts as camel case as it stands: it begins with a lower-case letter and holds
no separator. -/
def isCamelCase (name : List Char) : Bool :=
  name.head?.any isLower && !name.any isSeparator

/-- A name in camel case. -/
def camelCase (name : List Char) : List Char :=
  if isCamelCase name then name
  else
    match words name with
    | [] => name
    | first :: others => lower first ++ others.flatMap titled

/-- A text with its first letter as a capital. -/
def capitalize : List Char → List Char
  | [] => []
  | c :: cs => upperChar c ++ cs

/-- A name in Pascal case. -/
def pascalCase (name : List Char) : List Char :=
  capitalize (camelCase name)

end EntityMapper.Naming
