-- The styles that tags of marked-up texts ask for. A style has many spellings:
-- attributes in any order, long or short, and colours. Its normal form is the
-- one by which the tag that ends it is known.
import Minimize.Text.Blank
import Minimize.Text.Digit
import Minimize.Text.Numeral

namespace Minimize.Markup

/-- The attributes of a style in order, each with the words for it. -/
def attributes : List (String × List String) :=
  [("bold", ["bold", "b"]), ("dim", ["dim", "d"]), ("italic", ["italic", "i"]),
    ("underline", ["underline", "u"]), ("blink", ["blink"]), ("blink2", ["blink2"]),
    ("reverse", ["reverse", "r"]), ("conceal", ["conceal", "c"]), ("strike", ["strike", "s"]),
    ("underline2", ["underline2", "uu"]), ("frame", ["frame"]), ("encircle", ["encircle"]),
    ("overline", ["overline", "o"])]

/-- The attribute that a word stands for. -/
def attribute? (word : String) : Option String :=
  (attributes.find? fun a => a.2.contains word).map (·.1)

/-- The words of a text. -/
def wordsOf (cs : List Char) : List String :=
  ((cs.splitBy fun a b => Text.isBlank a == Text.isBlank b).filter fun w =>
    !w.any Text.isBlank).map String.ofList

/-- The colours that have a name. -/
def colourNames : List String :=
  wordsOf "default black red green yellow blue magenta cyan white bright_black bright_red
   bright_green bright_yellow bright_blue bright_magenta bright_cyan bright_white grey0 gray0
   navy_blue dark_blue blue3 blue1 dark_green deep_sky_blue4 dodger_blue3 dodger_blue2 green4
   spring_green4 turquoise4 deep_sky_blue3 dodger_blue1 green3 spring_green3 dark_cyan
   light_sea_green deep_sky_blue2 deep_sky_blue1 spring_green2 cyan3 dark_turquoise turquoise2
   green1 spring_green1 medium_spring_green cyan2 cyan1 dark_red deep_pink4 purple4 purple3
   blue_violet orange4 grey37 gray37 medium_purple4 slate_blue3 royal_blue1 chartreuse4
   dark_sea_green4 pale_turquoise4 steel_blue steel_blue3 cornflower_blue chartreuse3 cadet_blue
   sky_blue3 steel_blue1 pale_green3 sea_green3 aquamarine3 medium_turquoise chartreuse2
   sea_green2 sea_green1 aquamarine1 dark_slate_gray2 dark_magenta dark_violet purple
   light_pink4 plum4 medium_purple3 slate_blue1 yellow4 wheat4 grey53 gray53 light_slate_grey
   light_slate_gray medium_purple light_slate_blue dark_olive_green3 dark_sea_green
   light_sky_blue3 sky_blue2 dark_sea_green3 dark_slate_gray3 sky_blue1 chartreuse1 light_green
   pale_green1 dark_slate_gray1 red3 medium_violet_red magenta3 dark_orange3 indian_red
   hot_pink3 medium_orchid3 medium_orchid medium_purple2 dark_goldenrod light_salmon3 rosy_brown
   grey63 gray63 medium_purple1 gold3 dark_khaki navajo_white3 grey69 gray69 light_steel_blue3
   light_steel_blue yellow3 dark_sea_green2 light_cyan3 light_sky_blue1 green_yellow
   dark_olive_green2 dark_sea_green1 pale_turquoise1 deep_pink3 magenta2 hot_pink2 orchid
   medium_orchid1 orange3 light_pink3 pink3 plum3 violet light_goldenrod3 tan misty_rose3
   thistle3 plum2 khaki3 light_goldenrod2 light_yellow3 grey84 gray84 light_steel_blue1 yellow2
   dark_olive_green1 honeydew2 light_cyan1 red1 deep_pink2 deep_pink1 magenta1 orange_red1
   indian_red1 hot_pink dark_orange salmon1 light_coral pale_violet_red1 orchid2 orchid1 orange1
   sandy_brown light_salmon1 light_pink1 pink1 plum1 gold1 navajo_white1 misty_rose1 thistle1
   yellow1 light_goldenrod1 khaki1 wheat1 cornsilk1 grey100 gray100 grey3 gray3 grey7 gray7
   grey11 gray11 grey15 gray15 grey19 gray19 grey23 gray23 grey27 gray27 grey30 gray30 grey35
   gray35 grey39 gray39 grey42 gray42 grey46 gray46 grey50 gray50 grey54 gray54 grey58 gray58
   grey62 gray62 grey66 gray66 grey70 gray70 grey74 gray74 grey78 gray78 grey82 gray82 grey85
   gray85 grey89 gray89 grey93 gray93".toList

/-- Whether a list of digits is a number of one octet. -/
def isOctet (ds : List Char) : Bool :=
  !ds.isEmpty && ds.all (fun d => '0' ≤ d && d ≤ '9') && Text.digitsValue ds < 256

/-- What stands in a text between two others, if it starts and ends with
them. -/
def within? (start finish : String) (cs : List Char) : Option (List Char) :=
  if start.toList.isPrefixOf cs ∧ finish.toList.isSuffixOf cs then
    some ((cs.take (cs.length - finish.length)).drop start.length)
  else none

/-- Whether a word in small letters is a colour: a name, six digits, a number
of the palette, or three shares. -/
def isColour (word : String) : Bool :=
  let cs := word.toList
  colourNames.contains word ||
    (match cs with
      | '#' :: ds => ds.length == 6 && ds.all fun d =>
        ('0' ≤ d && d ≤ '9') || ('a' ≤ d && d ≤ 'f')
      | _ => false) ||
    (within? "color(" ")" cs).any (fun ds => ds.length ≤ 3 && isOctet ds) ||
    (within? "rgb(" ")" cs).any (fun ds =>
      let shares := (String.ofList ds).splitOn ","
      shares.length == 3 && shares.all fun s => isOctet s.toList)

/-- A style. -/
structure Style where
  attributes : List (String × Bool)
  colour? : Option String
  ground? : Option String
  link? : Option String

namespace Style

def plain : Style := ⟨[], none, none, none⟩

/-- The style with an attribute on or off. -/
def set (s : Style) (name : String) (on : Bool) : Style :=
  { s with attributes := (name, on) :: s.attributes }

def lowered (word : String) : String := String.ofList (Text.lowered word.toList)

/-- The style that words ask for, beyond one that earlier words asked for. -/
def read? (s : Style) : List String → Option Style
  | [] => some s
  | [w] =>
    match attribute? (lowered w) with
    | some a => some (s.set a true)
    | none => if isColour (lowered w) then some { s with colour? := some (lowered w) } else none
  | w :: v :: rest =>
    if lowered w = "on" then
      if isColour (lowered v) then read? { s with ground? := some (lowered v) } rest else none
    else if lowered w = "not" then
      (attribute? v).bind fun a => read? (s.set a false) rest
    else if lowered w = "link" then read? { s with link? := some v } rest
    else
      match attribute? (lowered w) with
      | some a => read? (s.set a true) (v :: rest)
      | none =>
        if isColour (lowered w) then read? { s with colour? := some (lowered w) } (v :: rest)
        else none

/-- The words of a style, in their order. -/
def words (s : Style) : List String :=
  (Markup.attributes.filterMap fun a => (s.attributes.lookup a.1).map fun on =>
    if on then a.1 else "not " ++ a.1) ++
    s.colour?.toList ++ (s.ground?.map ("on " ++ ·)).toList ++ (s.link?.map ("link " ++ ·)).toList

end Style

/-- The normal form of the name of a style. A name that is no style is only
put in small letters. -/
def normalForm (name : List Char) : String :=
  match wordsOf name with
  | ["none"] => "none"
  | ws => match Style.plain.read? ws with
    | some s => if s.words.isEmpty then "none" else " ".intercalate s.words
    | none => String.ofList (Text.lowered (Text.trimmed Text.isBlank name))

end Minimize.Markup
