import YamlTidy.Text.Case
import YamlTidy.Text.Digit

/-!
# Styles

A style is written as words: attributes, each with its short names, a color, a color behind the word
on, and a link.  Two texts for the same style have one normal form, in which markup compares them.
What is no style is its own normal form, in small letters.

A color of three parts must have a number in each of them: one without digits, or with too many, is
not told from a color and ends the reading with what is wrong with the number.
-/

namespace YamlTidy
namespace Terminal

open Text

/-- The pieces of a text between its blanks. -/
def blankPieces (s : List Char) : List (List Char) :=
  (s.splitBy fun a b => isBlank a == isBlank b).filter fun piece =>
    match piece with
    | c :: _ => !isBlank c
    | [] => false

/-- The attributes of a style in the order of the normal form, each with its short name. -/
def attributes : List (String × String) :=
  [("bold", "b"), ("dim", "d"), ("italic", "i"), ("underline", "u"), ("blink", "blink"),
    ("blink2", "blink2"), ("reverse", "r"), ("conceal", "c"), ("strike", "s"),
    ("underline2", "uu"), ("frame", "frame"), ("encircle", "encircle"), ("overline", "o")]

/-- The attribute that a word stands for. -/
def attribute? (word : List Char) : Option String :=
  (attributes.find? fun (long, short) => word == long.toList || word == short.toList).map
    Prod.fst

/-- The names of colors, a few with spaces between them in each text. -/
def colorNames : List String :=
  ["aquamarine1 aquamarine3 black blue blue1 blue3 blue_violet bright_black bright_blue",
    "bright_cyan bright_green bright_magenta bright_red bright_white bright_yellow cadet_blue",
    "chartreuse1 chartreuse2 chartreuse3 chartreuse4 cornflower_blue cornsilk1 cyan cyan1 cyan2",
    "cyan3 dark_blue dark_cyan dark_goldenrod dark_green dark_khaki dark_magenta",
    "dark_olive_green1 dark_olive_green2 dark_olive_green3 dark_orange dark_orange3 dark_red",
    "dark_sea_green dark_sea_green1 dark_sea_green2 dark_sea_green3 dark_sea_green4",
    "dark_slate_gray1 dark_slate_gray2 dark_slate_gray3 dark_turquoise dark_violet deep_pink1",
    "deep_pink2 deep_pink3 deep_pink4 deep_sky_blue1 deep_sky_blue2 deep_sky_blue3 deep_sky_blue4",
    "dodger_blue1 dodger_blue2 dodger_blue3 gold1 gold3 gray0 gray100 gray11 gray15 gray19 gray23",
    "gray27 gray3 gray30 gray35 gray37 gray39 gray42 gray46 gray50 gray53 gray54 gray58 gray62",
    "gray63 gray66 gray69 gray7 gray70 gray74 gray78 gray82 gray84 gray85 gray89 gray93 green",
    "green1 green3 green4 green_yellow grey0 grey100 grey11 grey15 grey19 grey23 grey27 grey3",
    "grey30 grey35 grey37 grey39 grey42 grey46 grey50 grey53 grey54 grey58 grey62 grey63 grey66",
    "grey69 grey7 grey70 grey74 grey78 grey82 grey84 grey85 grey89 grey93 honeydew2 hot_pink",
    "hot_pink2 hot_pink3 indian_red indian_red1 khaki1 khaki3 light_coral light_cyan1 light_cyan3",
    "light_goldenrod1 light_goldenrod2 light_goldenrod3 light_green light_pink1 light_pink3",
    "light_pink4 light_salmon1 light_salmon3 light_sea_green light_sky_blue1 light_sky_blue3",
    "light_slate_blue light_slate_gray light_slate_grey light_steel_blue light_steel_blue1",
    "light_steel_blue3 light_yellow3 magenta magenta1 magenta2 magenta3 medium_orchid",
    "medium_orchid1 medium_orchid3 medium_purple medium_purple1 medium_purple2 medium_purple3",
    "medium_purple4 medium_spring_green medium_turquoise medium_violet_red misty_rose1",
    "misty_rose3 navajo_white1 navajo_white3 navy_blue orange1 orange3 orange4 orange_red1 orchid",
    "orchid1 orchid2 pale_green1 pale_green3 pale_turquoise1 pale_turquoise4 pale_violet_red1",
    "pink1 pink3 plum1 plum2 plum3 plum4 purple purple3 purple4 red red1 red3 rosy_brown",
    "royal_blue1 salmon1 sandy_brown sea_green1 sea_green2 sea_green3 sky_blue1 sky_blue2",
    "sky_blue3 slate_blue1 slate_blue3 spring_green1 spring_green2 spring_green3 spring_green4",
    "steel_blue steel_blue1 steel_blue3 tan thistle1 thistle3 turquoise2 turquoise4 violet wheat1",
    "wheat4 white yellow yellow1 yellow2 yellow3 yellow4"]

/-- What stands between a word with an opening bracket and the closing bracket at the end. -/
def within? (word : String) (s : List Char) : Option (List Char) :=
  let front := word.toList ++ ['(']
  if front.isPrefixOf s && s.getLast? == some ')' then
    some ((s.drop front.length).dropLast)
  else none

/-- Whether a text is a number of at most 255, in at most so many digits. -/
def isByte (digits : Nat) (s : List Char) : Bool :=
  !s.isEmpty && s.length ≤ digits && s.all Char.isDigit &&
    s.foldl (fun n c => 10 * n + (c.toNat - 48)) 0 ≤ 255

/-- The pieces of a text between its commas. -/
def betweenCommas : List Char → List (List Char)
  | [] => [[]]
  | c :: rest =>
      if c == ',' then [] :: betweenCommas rest
      else
        match betweenCommas rest with
        | [] => [[c]]
        | piece :: more => (c :: piece) :: more

/-- The number that the digits of a part of a color stand for, or what is wrong with them. -/
def partOf (ds : List Char) : Except (List Char) Nat :=
  if ds.isEmpty then .error "invalid literal for int() with base 10: ''".toList
  else if longestDecimal < ds.length then
    .error (tooManyDigits (some (toString ds.length).toList))
  else .ok (ds.foldl (fun n c => 10 * n + (decimalDigit? c).getD 0) 0)

/-- Whether parts between commas make a color. -/
def isThreeParts (parts : List Char) : Except (List Char) Bool :=
  if parts.isEmpty || !parts.all (fun c => c == ',' || isDecimalDigit c) then .ok false
  else
    match betweenCommas parts with
    | [r, g, b] => do
        let r ← partOf r
        let g ← partOf g
        let b ← partOf b
        pure (r ≤ 255 && g ≤ 255 && b ≤ 255)
    | _ => .ok false

/-- Whether a word in small letters is a color by its name, by six hexadecimal digits or by its
number. -/
def isSimpleColor (word : List Char) : Bool :=
  let isHex (c : Char) : Bool := c.isDigit || ('a' ≤ c && c ≤ 'f')
  word == "default".toList ||
    colorNames.any (fun names => (blankPieces names.toList).contains word) ||
    (match word with
      | '#' :: digits => digits.length == 6 && digits.all isHex
      | _ => false) ||
    ((within? "color" word).map (isByte 3)).getD false

/-- Whether a word in small letters is a color, a simple one or one of three parts. -/
def isColor (word : List Char) : Except (List Char) Bool :=
  if isSimpleColor word then .ok true
  else
    match within? "rgb" word with
    | some parts => isThreeParts parts
    | none => .ok false

/-- What the words of a style say. -/
structure Style where
  /-- The attributes that are named, and whether they are wanted; the last word on each counts. -/
  wanted : List (String × Bool) := []
  color : Option (List Char) := none
  ground : Option (List Char) := none
  link : Option (List Char) := none
  deriving Repr, DecidableEq

namespace Style

/-- One more word on an attribute. -/
def want (s : Style) (name : String) (yes : Bool) : Style :=
  { s with wanted := (name, yes) :: s.wanted }

/-- The style that some words stand for, added to what is known of it, or what is wrong with a
number in them. -/
def ofWords (s : Style) : List (List Char) → Except (List Char) (Option Style)
  | [] => .ok (some s)
  | given :: rest =>
      let word := toSmall given
      if word == "on".toList then
        match rest with
        | color :: more => do
            if ← isColor (toSmall color) then
              ofWords { s with ground := some (toSmall color) } more
            else pure none
        | [] => .ok none
      else if word == "not".toList then
        match rest with
        | name :: more =>
            match attribute? name with
            | some a => ofWords (s.want a false) more
            | none => .ok none
        | [] => .ok none
      else if word == "link".toList then
        match rest with
        | target :: more => ofWords { s with link := some target } more
        | [] => .ok none
      else
        match attribute? word with
        | some a => ofWords (s.want a true) rest
        | none => do
            if ← isColor word then ofWords { s with color := some word } rest else pure none

/-- The words of a style in their order. -/
def words (s : Style) : List (List Char) :=
  let attributeWords := attributes.flatMap fun (a, _) =>
    match s.wanted.lookup a with
    | some true => [a.toList]
    | some false => ["not".toList, a.toList]
    | none => []
  attributeWords ++ s.color.toList ++
    (match s.ground with
      | some c => ["on".toList, c]
      | none => []) ++
    (match s.link with
      | some t => ["link".toList, t]
      | none => [])

/-- The style that a text stands for, if it stands for one. -/
def ofText (s : List Char) : Except (List Char) (Option Style) :=
  if strip s == "none".toList then .ok (some {}) else ofWords {} (blankPieces s)

/-- The normal form of a text that may stand for a style. -/
def normal (s : List Char) : Except (List Char) (List Char) :=
  (ofText s).map fun
    | some style => if style.words.isEmpty then "none".toList else [' '].intercalate style.words
    | none => toSmall (strip s)

end Style
end Terminal
end YamlTidy
