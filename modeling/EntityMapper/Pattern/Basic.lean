import EntityMapper.Text.Folding

/-!
# Patterns

Patterns over text in the manner of backtracking regular expressions.  A pattern is tried at a
cursor and hands every place where it can end, in order of preference, to a continuation; the first
place that the continuation accepts is the outcome.  Alternatives prefer the left one, a greedy
repetition prefers one more round and a lazy one prefers none.
-/

namespace EntityMapper

/-- A place in a text: the character before it, if any, and the characters after it. -/
structure Cursor where
  before : Option Char
  rest : List Char

/-- The place in front of a text. -/
def Cursor.start (cs : List Char) : Cursor :=
  ⟨none, cs⟩

/-- The place a number of characters further on. -/
def Cursor.advance : Nat → Cursor → Cursor
  | 0, s => s
  | _ + 1, ⟨before, []⟩ => ⟨before, []⟩
  | n + 1, ⟨_, c :: cs⟩ => Cursor.advance n ⟨some c, cs⟩

theorem Cursor.advance_rest (n : Nat) (s : Cursor) : (s.advance n).rest = s.rest.drop n := by
  induction n generalizing s with
  | zero => rfl
  | succ n ih =>
    obtain ⟨before, rest⟩ := s
    cases rest with
    | nil => simp [Cursor.advance]
    | cons c cs => simp [Cursor.advance, ih]

/-- Whether exactly one of the two sides of a place is a word character. -/
def Cursor.isWordEdge (s : Cursor) : Bool :=
  s.before.any Text.isWord != s.rest.head?.any Text.isWord

/-- Whether a place is the end of the text or stands before its final line feed. -/
def Cursor.isLineEnd (s : Cursor) : Bool :=
  s.rest == [] || s.rest == ['\n']

/-- How eagerly a repetition takes a further round. -/
inductive Appetite where
  | greedy
  | reluctant
  deriving DecidableEq, Repr

/-- A pattern over text. -/
inductive Pattern where
  /-- Matches the empty text. -/
  | empty
  /-- Matches one character of a class. -/
  | one (accepts : Char → Bool)
  /-- Matches the first pattern and then the second. -/
  | followedBy (first second : Pattern)
  /-- Matches the first pattern or else the second. -/
  | orElse (first second : Pattern)
  /-- Matches any number of characters of a class. -/
  | many (appetite : Appetite) (accepts : Char → Bool)
  /-- Matches any number of rounds of a pattern, each of which takes some text. -/
  | repeated (appetite : Appetite) (body : Pattern)
  /-- Matches the empty text where the given pattern matches. -/
  | ahead (body : Pattern)
  /-- Matches the empty text where the next character, if any, passes the test. -/
  | next (test : Option Char → Bool)
  /-- Matches the empty text where the character before, if any, passes the test. -/
  | behind (test : Option Char → Bool)
  /-- Matches the empty text at the edge of a word. -/
  | wordEdge
  /-- Matches the empty text at the end of the text or before its final line feed. -/
  | lineEnd

namespace Pattern

variable {α : Type}

/-- Tries the places after each number of accepted characters, the longest run first. -/
def manyGreedy (accepts : Char → Bool) (k : Cursor → Option α) :
    Option Char → List Char → Option α
  | before, [] => k ⟨before, []⟩
  | before, c :: cs =>
    if accepts c then
      manyGreedy accepts k (some c) cs <|> k ⟨before, c :: cs⟩
    else k ⟨before, c :: cs⟩

/-- Tries the places after each number of accepted characters, the shortest run first. -/
def manyReluctant (accepts : Char → Bool) (k : Cursor → Option α) :
    Option Char → List Char → Option α
  | before, [] => k ⟨before, []⟩
  | before, c :: cs =>
    k ⟨before, c :: cs⟩ <|>
      if accepts c then manyReluctant accepts k (some c) cs else none

/-- Tries the places after each number of rounds of a step, in order of appetite, for at most the
given number of rounds; a round that takes no text is none. -/
def rounds (appetite : Appetite) (step : Cursor → (Cursor → Option α) → Option α)
    (k : Cursor → Option α) : Nat → Cursor → Option α
  | 0, s => k s
  | n + 1, s =>
    let further := fun (_ : Unit) =>
      step s fun t => if t.rest.length < s.rest.length then rounds appetite step k n t else none
    match appetite with
    | .greedy => further () <|> k s
    | .reluctant => k s <|> further ()

/-- Tries a pattern at a place and hands each place where it can end to the continuation, until the
continuation accepts one. -/
def run : Pattern → Cursor → (Cursor → Option α) → Option α
  | .empty, s, k => k s
  | .one _, ⟨_, []⟩, _ => none
  | .one accepts, ⟨_, c :: cs⟩, k => if accepts c then k ⟨some c, cs⟩ else none
  | .followedBy p q, s, k => run p s fun t => run q t k
  | .orElse p q, s, k => run p s k <|> run q s k
  | .many .greedy accepts, ⟨before, rest⟩, k => manyGreedy accepts k before rest
  | .many .reluctant accepts, ⟨before, rest⟩, k => manyReluctant accepts k before rest
  | .repeated appetite p, s, k => rounds appetite (run p) k s.rest.length s
  | .ahead p, s, k => run p s fun _ => k s
  | .next test, s, k => if test s.rest.head? then k s else none
  | .behind test, s, k => if test s.before then k s else none
  | .wordEdge, s, k => if s.isWordEdge then k s else none
  | .lineEnd, s, k => if s.isLineEnd then k s else none

/-- The number of characters that a pattern takes at a place, if it matches there. -/
def length? (p : Pattern) (s : Cursor) : Option Nat :=
  p.run s fun t => some (s.rest.length - t.rest.length)

/-- Whether a pattern matches at the place between the two given parts, or at a later one. -/
def occursAfter (p : Pattern) : Option Char → List Char → Bool
  | before, [] => (p.length? ⟨before, []⟩).isSome
  | before, c :: cs => (p.length? ⟨before, c :: cs⟩).isSome || occursAfter p (some c) cs

/-- Whether a pattern matches anywhere in a text. -/
def occursIn (p : Pattern) (cs : List Char) : Bool :=
  p.occursAfter none cs

end Pattern

end EntityMapper
