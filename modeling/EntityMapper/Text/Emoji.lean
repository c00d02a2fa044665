import EntityMapper.Text.Columns
import EntityMapper.Text.Cutting
import EntityMapper.Text.EmojiNames

/-!
# Emoji by name

Names between colons that stand for emoji.  Some emoji have further names for their skin tones, and
flags have names that begin with `flag_for_`.  A name may say at its end whether the emoji is to be
shown as text or in colour.
-/

namespace EntityMapper.Text

/-- An emoji with its names. -/
structure NamedEmoji where
  emoji : List Char
  names : List (List Char)
  deriving DecidableEq, Repr

/-- Reads the entries of a line: entries are set apart by commas, and an emoji and its names by
blanks. -/
def namedEmoji (line : String) : List NamedEmoji :=
  (pieces (· == ',') line.toList).filterMap fun entry =>
    match pieces (· == ' ') entry with
    | emoji :: names => some ⟨emoji, names⟩
    | [] => none

/-- Emoji that come in one form. -/
def plainEmoji : List NamedEmoji := EmojiNames.others.flatMap namedEmoji

/-- Emoji that come in skin tones. -/
def tonedEmoji : List NamedEmoji := EmojiNames.toned.flatMap namedEmoji

/-- Flags of countries and regions. -/
def flagEmoji : List NamedEmoji := EmojiNames.flags.flatMap namedEmoji

/-- The skin tones: how names end that ask for them, and the characters that give them. -/
def skinTones : List (String × Char) :=
  [("_light_skin_tone", '🏻'), ("_medium-light_skin_tone", '🏼'), ("_medium_skin_tone", '🏽'),
   ("_medium-dark_skin_tone", '🏾'), ("_dark_skin_tone", '🏿')]

/-- The forms in which an emoji can be shown: how names end that ask for them, and the characters
that select them. -/
def presentations : List (String × Char) :=
  [("-emoji", emojiSelector), ("-text", '\ufe0e')]

/-- The emoji of a name in a list. -/
def lookUp? (known : List NamedEmoji) (name : List Char) : Option (List Char) :=
  (known.find? fun e => e.names.contains name).map (·.emoji)

/-- What stands before an ending, if a text ends so. -/
def before? (ending : String) (cs : List Char) : Option (List Char) :=
  if ending.toList.isSuffixOf cs then some (cs.take (cs.length - ending.length)) else none

/-- An emoji in a skin tone, which takes the place of a selector behind the first character. -/
def inTone (tone : Char) : List Char → List Char
  | [] => []
  | c :: d :: cs => if d = emojiSelector then c :: tone :: cs else c :: tone :: d :: cs
  | [c] => [c, tone]

/-- The emoji of a name. -/
def emoji? (name : List Char) : Option (List Char) :=
  let toned := skinTones.findSome? fun (ending, tone) =>
    ((before? ending name).bind (lookUp? tonedEmoji)).map (inTone tone)
  let flag := if "flag_for_".toList.isPrefixOf name then name.drop 9 else name
  toned <|> lookUp? plainEmoji name <|> lookUp? tonedEmoji name <|> lookUp? flagEmoji flag

/-- The emoji of a name in any letter case, which may ask for a form in which to show it. -/
def presentedEmoji? (name : List Char) : Option (List Char) :=
  match presentations.findSome? fun (ending, form) => (before? ending name).map (·, form) with
  | some (name, form) => (emoji? (lower name)).map (· ++ [form])
  | none => emoji? (lower name)

/-- Texts that stand each behind a colon, with names between two colons replaced by their emoji. -/
def behindColons : List (List Char) → List Char
  | [] => []
  | [part] => ':' :: part
  | part :: next :: parts =>
    if part.any isSpace then ':' :: part ++ behindColons (next :: parts)
    else (presentedEmoji? part).getD (':' :: part ++ [':']) ++ next ++ behindColons parts

/-- A text with names between colons replaced by their emoji. -/
def withEmoji (cs : List Char) : List Char :=
  match split ':' cs with
  | [] => []
  | part :: parts => part ++ behindColons parts

end EntityMapper.Text
