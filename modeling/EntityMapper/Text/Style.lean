import EntityMapper.Text.Cutting

/-!
# Styles

Descriptions of how text looks: attributes that are switched on or off, a colour, a background and a
link.  Descriptions that mean the same have the same normal form; texts that describe no style stand
for themselves.
-/

namespace EntityMapper.Text

/-- The attributes, each with its abbreviations. -/
def attributes : List (String × List String) :=
  [("bold", ["b"]), ("dim", ["d"]), ("italic", ["i"]), ("underline", ["u"]), ("blink", []),
   ("blink2", []), ("reverse", ["r"]), ("conceal", ["c"]), ("strike", ["s"]),
   ("underline2", ["uu"]), ("frame", []), ("encircle", []), ("overline", ["o"])]

/-- The attribute of a name or an abbreviation. -/
def attribute? (name : String) : Option String :=
  (attributes.find? fun (full, short) => full = name ∨ name ∈ short).map (·.1)

/-- The names of colours, set apart by blanks. -/
def colorNames : List String :=
  ["black red green yellow blue magenta cyan white bright_black bright_red bright_green",
   "bright_yellow bright_blue bright_magenta bright_cyan bright_white grey0 gray0 navy_blue",
   "dark_blue blue3 blue1 dark_green deep_sky_blue4 dodger_blue3 dodger_blue2 green4",
   "spring_green4 turquoise4 deep_sky_blue3 dodger_blue1 green3 spring_green3 dark_cyan",
   "light_sea_green deep_sky_blue2 deep_sky_blue1 spring_green2 cyan3 dark_turquoise turquoise2",
   "green1 spring_green1 medium_spring_green cyan2 cyan1 dark_red deep_pink4 purple4 purple3",
   "blue_violet orange4 grey37 gray37 medium_purple4 slate_blue3 royal_blue1 chartreuse4",
   "dark_sea_green4 pale_turquoise4 steel_blue steel_blue3 cornflower_blue chartreuse3",
   "cadet_blue sky_blue3 steel_blue1 pale_green3 sea_green3 aquamarine3 medium_turquoise",
   "chartreuse2 sea_green2 sea_green1 aquamarine1 dark_slate_gray2 dark_magenta dark_violet",
   "purple light_pink4 plum4 medium_purple3 slate_blue1 yellow4 wheat4 grey53 gray53",
   "light_slate_grey light_slate_gray medium_purple light_slate_blue dark_olive_green3",
   "dark_sea_green light_sky_blue3 sky_blue2 dark_sea_green3 dark_slate_gray3 sky_blue1",
   "chartreuse1 light_green pale_green1 dark_slate_gray1 red3 medium_violet_red magenta3",
   "dark_orange3 indian_red hot_pink3 medium_orchid3 medium_orchid medium_purple2 dark_goldenrod",
   "light_salmon3 rosy_brown grey63 gray63 medium_purple1 gold3 dark_khaki navajo_white3 grey69",
   "gray69 light_steel_blue3 light_steel_blue yellow3 dark_sea_green2 light_cyan3",
   "light_sky_blue1 green_yellow dark_olive_green2 dark_sea_green1 pale_turquoise1 deep_pink3",
   "magenta2 hot_pink2 orchid medium_orchid1 orange3 light_pink3 pink3 plum3 violet",
   "light_goldenrod3 tan misty_rose3 thistle3 plum2 khaki3 light_goldenrod2 light_yellow3 grey84",
   "gray84 light_steel_blue1 yellow2 dark_olive_green1 honeydew2 light_cyan1 red1 deep_pink2",
   "deep_pink1 magenta1 orange_red1 indian_red1 hot_pink dark_orange salmon1 light_coral",
   "pale_violet_red1 orchid2 orchid1 orange1 sandy_brown light_salmon1 light_pink1 pink1 plum1",
   "gold1 navajo_white1 misty_rose1 thistle1 yellow1 light_goldenrod1 khaki1 wheat1 cornsilk1",
   "grey100 gray100 grey3 gray3 grey7 gray7 grey11 gray11 grey15 gray15 grey19 gray19 grey23",
   "gray23 grey27 gray27 grey30 gray30 grey35 gray35 grey39 gray39 grey42 gray42 grey46 gray46",
   "grey50 gray50 grey54 gray54 grey58 gray58 grey62 gray62 grey66 gray66 grey70 gray70 grey74",
   "gray74 grey78 gray78 grey82 gray82 grey85 gray85 grey89 gray89 grey93 gray93"]

/-- Whether a text is a number of one byte. -/
def isByte (cs : List Char) : Bool :=
  match (String.ofList cs).toNat? with
  | some n => n < 256 && !cs.contains '_'
  | none => false

/-- What stands between a beginning and a closing bracket, if that is all of a text. -/
def inBrackets? (beginning : String) (cs : List Char) : Option (List Char) :=
  if beginning.toList.isPrefixOf cs ∧ cs.getLast? = some ')' then
    some (cs.drop beginning.length).dropLast
  else none

/-- Whether a text in lower case is a colour: a name, six hexadecimal digits, the number of a
colour, or three numbers that mix one. -/
def isColor (cs : List Char) : Bool :=
  let isHexDigit (c : Char) : Bool := c.isDigit || ('a' ≤ c && c ≤ 'f')
  let byHex := match cs with
    | '#' :: digits => digits.length == 6 && digits.all isHexDigit
    | _ => false
  let byNumber := (inBrackets? "color(" cs).any fun n => n.length ≤ 3 && isByte n
  let mixed := (inBrackets? "rgb(" cs).any fun ns =>
    (split ',' ns).length == 3 && (split ',' ns).all isByte
  cs == "default".toList || (colorNames.any fun line => (split ' ' line.toList).contains cs) ||
    byHex || byNumber || mixed

/-- A style. -/
structure Style where
  /-- The attributes that are switched, the one switched last first. -/
  switched : List (String × Bool) := []
  color : Option (List Char) := none
  background : Option (List Char) := none
  link : Option (List Char) := none
  deriving DecidableEq, Repr

/-- The style that words describe, where a style to begin with is given. -/
def readStyle (s : Style) : List (List Char) → Option Style
  | [] => some s
  | word :: words =>
    match String.ofList (lower word), words with
    | "on", color :: words =>
      if isColor (lower color) then readStyle { s with background := some (lower color) } words
      else none
    | "not", name :: words => do
      let name ← attribute? (String.ofList name)
      readStyle { s with switched := (name, false) :: s.switched } words
    | "link", url :: words => readStyle { s with link := some url } words
    | name, words =>
      match attribute? name with
      | some name => readStyle { s with switched := (name, true) :: s.switched } words
      | none =>
        if isColor name.toList then readStyle { s with color := some name.toList } words else none

/-- The words that describe a style in the normal order. -/
def Style.words (s : Style) : List (List Char) :=
  (attributes.flatMap fun (name, _) =>
    match s.switched.lookup name with
    | some true => [name.toList]
    | some false => ["not".toList, name.toList]
    | none => []) ++
  s.color.toList ++ (s.background.toList.flatMap fun color => ["on".toList, color]) ++
  s.link.toList.flatMap fun url => ["link".toList, url]

/-- The normal form of the description of a style; a text that describes none stands for itself in
lower case. -/
def normalStyle (cs : List Char) : List Char :=
  match readStyle {} (pieces isSpace cs) with
  | some s => if s.words = [] then "none".toList else [' '].intercalate s.words
  | none => lower (strip cs)

end EntityMapper.Text
