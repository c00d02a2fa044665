import EntityMapper.Pattern.Builders
import EntityMapper.Text.Cutting

/-!
# Assignment files

Files of lines that assign values to names.  A name may follow the word `export`; a value may stand
in single or double quotes, inside which backslashes escape, and otherwise ends before a comment.
References to names in braces are replaced by the values that are assigned before or given in the
environment.  Lines that cannot be read are passed over.
-/

namespace EntityMapper.Settings

open Pattern Text

/-- White space within a line. -/
def isInline (c : Char) : Bool :=
  isSpace c && c != '\n'

/-- What a pattern takes from the front of a text, and the rest. -/
def take? (p : Pattern) (cs : List Char) : Option (List Char × List Char) :=
  (p.length? (Cursor.start cs)).map fun n => (cs.take n, cs.drop n)

/-- Matches a value in quotes, where any character after a backslash stands inside. -/
private def quotedValue (quote : Char) : Pattern :=
  letter quote ++
    repeated .greedy
      ((letter '\\' ++ one fun _ => true) <|> one fun c => c != quote && c != '\\') ++
    letter quote

/-- The characters that letters after a backslash stand for in double quotes. -/
private def escapes : List (Char × Char) :=
  [('\\', '\\'), ('\x27', '\x27'), ('"', '"'), ('a', '\x07'), ('b', '\x08'), ('f', '\x0c'),
   ('n', '\n'), ('r', '\r'), ('t', '\t'), ('v', '\x0b')]

/-- A quoted value with its escapes undone, of which only the given ones are known. -/
def unescape (known : List (Char × Char)) : List Char → List Char
  | '\\' :: c :: cs =>
    match known.lookup c with
    | some d => d :: unescape known cs
    | none => '\\' :: unescape known (c :: cs)
  | c :: cs => c :: unescape known cs
  | [] => []

/-- The part of a line before a comment, which begins with a number sign after white space. -/
def beforeComment : List Char → List Char
  | [] => []
  | c :: cs =>
    if isSpace c && ((c :: cs).dropWhile isSpace).head? == some '#' then []
    else c :: beforeComment cs

/-- The value that a text begins with, in quotes or not, and the rest; `none` if a quote is not
closed. -/
def value? (cs : List Char) : Option (List Char × List Char) :=
  match cs with
  | '\x27' :: _ =>
    (take? (quotedValue '\x27') cs).map fun (raw, rest) =>
      (unescape (escapes.take 2) (raw.drop 1).dropLast, rest)
  | '"' :: _ =>
    (take? (quotedValue '"') cs).map fun (raw, rest) =>
      (unescape escapes (raw.drop 1).dropLast, rest)
  | cs =>
    let line := cs.takeWhile (· != '\n')
    some (stripEnd (beforeComment line), cs.drop line.length)

/-- The value behind an equals sign, and the rest; `none` if a quote is not closed.  Behind blanks a
number sign begins a comment. -/
def assignedValue? (cs : List Char) : Option (List Char × List Char) :=
  let rest := cs.dropWhile isInline
  if rest.head? = some '#' ∧ rest.length < cs.length then some ([], rest) else value? rest

/-- The name that a text begins with, and the rest; a comment has no name. -/
def name? (cs : List Char) : Option (List Char × List Char) :=
  match cs with
  | '#' :: _ => some ([], cs)
  | '\x27' :: _ =>
    (take? (letter '\x27' ++ oneOrMore (· != '\x27') ++ letter '\x27') cs).map fun (raw, rest) =>
      ((raw.drop 1).dropLast, rest)
  | cs => take? (oneOrMore fun c => c != '=' && c != '#' && !isSpace c) cs

/-- The text without the rest of its first line. -/
def afterLine (cs : List Char) : List Char :=
  (cs.dropWhile (· != '\n')).drop 1

/-- An assignment: a name and its value, if one is given. -/
abbrev Assignment := List Char × Option (List Char)

/-- The rest of the text after an assignment; what else stands on its line, apart from a comment,
spoils it. -/
def endOfLine? (cs : List Char) : Except (List Char) (List Char) :=
  let blank := cs.dropWhile isInline
  let rest := if blank.head? = some '#' then blank.dropWhile (· != '\n') else cs
  match rest.dropWhile isInline with
  | [] => .ok []
  | '\n' :: cs => .ok cs
  | cs => .error cs

/-- The assignment that a text begins with, if it can be read and has a name, and the rest. -/
def assignment (cs : List Char) : Option Assignment × List Char :=
  let start :=
    match take? (Pattern.text "export" ++ oneOrMore isInline) cs with
    | some (_, rest) => if "export".toList.isPrefixOf cs then rest else cs
    | none => cs
  match name? start with
  | none => (none, afterLine start)
  | some (name, rest) =>
    let found : Except (List Char) (Option (List Char) × List Char) :=
      match rest.dropWhile isInline with
      | '=' :: rest =>
        match assignedValue? rest with
        | some (value, rest) => .ok (some value, rest)
        | none => .error rest
      | rest => .ok (none, rest)
    match found with
    | .error rest => (none, afterLine rest)
    | .ok (value, rest) =>
      match endOfLine? rest with
      | .ok rest => (if name = [] then none else some (name, value), rest)
      | .error rest => (none, afterLine rest)

/-- The assignments of a text, at most the given number of lines being read. -/
def assignmentsWithin : Nat → List Char → List Assignment
  | 0, _ => []
  | fuel + 1, cs =>
    match cs.dropWhile isSpace with
    | [] => []
    | cs =>
      let (found, rest) := assignment cs
      found.toList ++ assignmentsWithin fuel rest

/-! ## References -/

/-- Matches a reference to a name. -/
private def reference : Pattern :=
  Pattern.text "$\x7b" ++ zeroOrMore (fun c => c != '\x7d' && c != ':') ++
    Pattern.optional (Pattern.text ":-" ++ zeroOrMore (· != '\x7d')) ++ letter '\x7d'

/-- The value that a reference stands for: that of the name, or else the default it gives. -/
def dereference (known : List (List Char × List Char)) (reference : List Char) : List Char :=
  let inside := (reference.drop 2).dropLast
  let name := inside.takeWhile (· != ':')
  match known.lookup name with
  | some value => value
  | none => (inside.drop name.length).drop 2

/-- A value with its references replaced; at most the given number of characters are read. -/
def replaceReferences (known : List (List Char × List Char)) : Nat → List Char → List Char
  | 0, _ => []
  | _, [] => []
  | fuel + 1, c :: cs =>
    match take? reference (c :: cs) with
    | some (found, rest) => dereference known found ++ replaceReferences known fuel rest
    | none => c :: replaceReferences known fuel cs

/-- The assignments with references replaced, where values known before are given, the latest
first. -/
def resolveFrom (known : List (List Char × List Char)) : List Assignment → List Assignment
  | [] => []
  | (name, none) :: rest => (name, none) :: resolveFrom ((name, []) :: known) rest
  | (name, some value) :: rest =>
    let value := replaceReferences known value.length value
    (name, some value) :: resolveFrom ((name, value) :: known) rest

/-- The assignments of a text, where the environment gives further values to refer to. -/
def assignments (environment : List (String × String)) (text : List Char) : List Assignment :=
  let cs := normalizeLines text
  resolveFrom (environment.reverse.map fun (k, v) => (k.toList, v.toList))
    (assignmentsWithin cs.length cs)

end EntityMapper.Settings
