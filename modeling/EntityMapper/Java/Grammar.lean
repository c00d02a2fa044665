import EntityMapper.Java.Token

/-!
# Grammars over tokens

Grammars that look at the next tokens to decide what to read, with one form of choice that goes
back.  Reading yields a tree with a node for every rule that is applied and a leaf for every token.
Source that is no token matters when it is read or looked at, and then ends the reading at once.
-/

namespace EntityMapper.Java

/-- Why tokens are not read by a grammar. -/
inductive Fault where
  /-- A token stands where the grammar does not allow it. -/
  | syntactic
  /-- Source that is no token was come across. -/
  | lexical
  /-- The tokens ended where one was needed. -/
  | ended
  /-- The reading was given up for lack of steps. -/
  | exhausted
  deriving DecidableEq, Repr

/-- What a token is compared with. -/
inductive TokenTest where
  | text (expected : String)
  | kind (expected : TokenKind)
  | among (expected : List String)
  deriving DecidableEq, Repr

/-- Whether a token passes a test. -/
def TokenTest.accepts : TokenTest → Token → Bool
  | .text expected, t => t.text == expected
  | .kind expected, t => t.kind == expected
  | .among expected, t => expected.contains t.text

/-- A question about the tokens that follow. -/
abbrev Lookahead := List Token → Except Fault Bool

/-- Whether the following tokens pass the tests, one after the other. -/
def following : List TokenTest → Lookahead
  | [], _ => .ok true
  | _ :: _, [] => .ok false
  | test :: tests, t :: ts =>
    if t.kind = .fault then .error .lexical
    else if test.accepts t then following tests ts
    else .ok false

/-- The token at a distance, if there is one. -/
def lookAt : Nat → List Token → Except Fault (Option Token)
  | _, [] => .ok none
  | 0, t :: _ => if t.kind = .fault then .error .lexical else .ok (some t)
  | n + 1, t :: ts => if t.kind = .fault then .error .lexical else lookAt n ts

/-- A grammar whose rules have names of some type. -/
inductive Grammar (Rule : Type) where
  /-- Reads nothing. -/
  | nothing
  /-- Reads one token that passes a test. -/
  | token (test : TokenTest)
  /-- Reads one thing after the other. -/
  | followedBy (first second : Grammar Rule)
  /-- Reads the first grammar if the question is answered with yes, and otherwise the second. -/
  | choose (question : Lookahead) (yes no : Grammar Rule)
  /-- Reads a grammar for as long as the question is answered with yes. -/
  | loop (question : Lookahead) (body : Grammar Rule)
  /-- Reads the first grammar, or the second from the same place if the first does not fit. -/
  | attempt (first second : Grammar Rule)
  /-- Reads what a rule says, as a node of its own. -/
  | rule (name : Rule)
  /-- Fits nothing. -/
  | misfit

/-- What has been read: a token, or the parts that a rule read. -/
inductive Tree (Rule : Type) where
  | leaf (t : Token)
  | node (name : Rule) (parts : List (Tree Rule))

namespace Grammar

variable {Rule : Type}

instance : Append (Grammar Rule) := ⟨followedBy⟩

/-- The fault of a token that does not fit, where the tokens after it are given. -/
def misfitBefore : List Token → Fault
  | [] => .syntactic
  | t :: _ => if t.kind = .fault then .lexical else .syntactic

/-- Reads tokens by a grammar, where the rules are given and so many steps may be nested; the
outcome is the trees that were read and the tokens that are left. -/
def read (rules : Rule → Grammar Rule) :
    Nat → Grammar Rule → List Token → Except Fault (List (Tree Rule) × List Token)
  | 0, _, _ => .error .exhausted
  | fuel + 1, g, ts =>
    match g with
    | .nothing => .ok ([], ts)
    | .token test =>
      match ts with
      | [] => .error .ended
      | t :: rest =>
        if t.kind = .fault then .error .lexical
        else if test.accepts t then .ok ([.leaf t], rest)
        else .error (misfitBefore rest)
    | .followedBy first second => do
      let (parts, rest) ← read rules fuel first ts
      let (more, rest) ← read rules fuel second rest
      return (parts ++ more, rest)
    | .choose question yes no => do
      if ← question ts then read rules fuel yes ts else read rules fuel no ts
    | .loop question body => do
      if ← question ts then
        let (parts, rest) ← read rules fuel body ts
        let (more, rest) ← read rules fuel (.loop question body) rest
        return (parts ++ more, rest)
      else return ([], ts)
    | .attempt first second =>
      match read rules fuel first ts with
      | .error .syntactic => read rules fuel second ts
      | outcome => outcome
    | .rule name => do
      let (parts, rest) ← read rules fuel (rules name) ts
      return ([.node name parts], rest)
    | .misfit => .error (misfitBefore ts)

/-! ## Forms put together -/

/-- Reads the given text. -/
def mark (text : String) : Grammar Rule :=
  .token (.text text)

/-- Reads the given texts one after the other. -/
def marks : List String → Grammar Rule
  | [] => .nothing
  | [text] => mark text
  | text :: texts => mark text ++ marks texts

/-- Asks whether the given text follows. -/
def next (text : String) : Lookahead :=
  following [.text text]

/-- Asks whether one of the given texts follows. -/
def nextAmong (texts : List String) : Lookahead :=
  following [.among texts]

/-- Asks whether a token of the given kind follows. -/
def nextKind (kind : TokenKind) : Lookahead :=
  following [.kind kind]

/-- The opposite answer to a question. -/
def negated (question : Lookahead) : Lookahead := fun ts =>
  (question ts).map not

/-- The answer to the first question, and if that is yes to the second. -/
def both (first second : Lookahead) : Lookahead := fun ts => do
  if ← first ts then second ts else return false

/-- The answer to the first question, and if that is no to the second. -/
def either (first second : Lookahead) : Lookahead := fun ts => do
  if ← first ts then return true else second ts

/-- Reads a grammar if the question is answered with yes. -/
def when (question : Lookahead) (g : Grammar Rule) : Grammar Rule :=
  .choose question g .nothing

/-- Reads the given text and then a grammar, if the text follows. -/
def after (text : String) (g : Grammar Rule) : Grammar Rule :=
  when (next text) (mark text ++ g)

/-- Reads a grammar, and again after each separating text. -/
def separated (separator : String) (g : Grammar Rule) : Grammar Rule :=
  g ++ .loop (next separator) (mark separator ++ g)

/-- Chooses the first grammar whose question is answered with yes, or else the last. -/
def cases : List (Lookahead × Grammar Rule) → Grammar Rule → Grammar Rule
  | [], g => g
  | (question, g) :: rest, last => .choose question g (cases rest last)

end Grammar

end EntityMapper.Java
