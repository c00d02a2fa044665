import EntityMapper.Pattern.Basic

/-!
# Building patterns

Names for the patterns that lexical rules are put together from.  Letters are compared without
case, and `++` and `<|>` stand for sequence and choice.
-/

namespace EntityMapper.Pattern

instance : Append Pattern := ⟨followedBy⟩

instance : OrElse Pattern := ⟨fun p q => p.orElse (q ())⟩

/-- Matches one given character, in either case if it is a letter. -/
def letter (c : Char) : Pattern :=
  one (Text.sameLetter c)

/-- Matches a text, its letters in either case. -/
def text (word : String) : Pattern :=
  word.toList.foldr (fun c p => letter c ++ p) empty

/-- Matches one of several texts, the earlier ones preferred. -/
def anyOf : List String → Pattern
  | [] => one fun _ => false
  | [word] => text word
  | word :: words => text word <|> anyOf words

/-- Matches one of the listed characters. -/
def oneOf (cs : String) : Pattern :=
  one fun c => cs.toList.contains c

/-- Matches one character other than the listed ones. -/
def noneOf (cs : String) : Pattern :=
  one fun c => !cs.toList.contains c

/-- Matches a pattern or else the empty text. -/
def optional (p : Pattern) : Pattern :=
  p <|> empty

/-- Matches any number of characters of a class, as many as possible. -/
def zeroOrMore (accepts : Char → Bool) : Pattern :=
  many .greedy accepts

/-- Matches at least one character of a class, as many as possible. -/
def oneOrMore (accepts : Char → Bool) : Pattern :=
  one accepts ++ zeroOrMore accepts

/-- Matches white space of at least one character. -/
def blanks : Pattern :=
  oneOrMore Text.isSpace

/-- Matches words that are separated by white space and end at the edge of a word. -/
def phrase : List String → Pattern
  | [] => wordEdge
  | [word] => text word ++ wordEdge
  | word :: words => text word ++ blanks ++ phrase words

/-- Holds where no further character comes, or one outside the class. -/
def notNext (accepts : Char → Bool) : Pattern :=
  next fun c? => !c?.any accepts

/-- Holds where no character stands before, or one outside the class. -/
def notBehind (accepts : Char → Bool) : Pattern :=
  behind fun c? => !c?.any accepts

end EntityMapper.Pattern
