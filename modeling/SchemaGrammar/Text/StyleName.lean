import SchemaGrammar.Text.Case
import SchemaGrammar.Text.CharClass
import SchemaGrammar.Text.Digits

/-!
# Names of styles

A style is named by words: attributes that are on, or off after `not`, a colour, another one after
`on`, and an address after `link`. Names of one style have one normal form. A name that is not made
of such words is its own normal form, but for blanks around it and the case of its letters.
-/
namespace SchemaGrammar.Text

/-- The attributes with their short names, in the order of the normal form. -/
def styleAttributes : List (String × Option String) :=
  [("bold", some "b"), ("dim", some "d"), ("italic", some "i"), ("underline", some "u"),
    ("blink", none), ("blink2", none), ("reverse", some "r"), ("conceal", some "c"),
    ("strike", some "s"), ("underline2", some "uu"), ("frame", none), ("encircle", none),
    ("overline", some "o")]

def colourNames : List String :=
  ["black", "red", "green", "yellow", "blue", "magenta", "cyan", "white", "bright_black",
    "bright_red", "bright_green", "bright_yellow", "bright_blue", "bright_magenta", "bright_cyan",
    "bright_white", "grey0", "gray0", "navy_blue", "dark_blue", "blue3", "blue1", "dark_green",
    "deep_sky_blue4", "dodger_blue3", "dodger_blue2", "green4", "spring_green4", "turquoise4",
    "deep_sky_blue3", "dodger_blue1", "green3", "spring_green3", "dark_cyan", "light_sea_green",
    "deep_sky_blue2", "deep_sky_blue1", "spring_green2", "cyan3", "dark_turquoise", "turquoise2",
    "green1", "spring_green1", "medium_spring_green", "cyan2", "cyan1", "dark_red", "deep_pink4",
    "purple4", "purple3", "blue_violet", "orange4", "grey37", "gray37", "medium_purple4",
    "slate_blue3", "royal_blue1", "chartreuse4", "dark_sea_green4", "pale_turquoise4",
    "steel_blue", "steel_blue3", "cornflower_blue", "chartreuse3", "cadet_blue", "sky_blue3",
    "steel_blue1", "pale_green3", "sea_green3", "aquamarine3", "medium_turquoise", "chartreuse2",
    "sea_green2", "sea_green1", "aquamarine1", "dark_slate_gray2", "dark_magenta", "dark_violet",
    "purple", "light_pink4", "plum4", "medium_purple3", "slate_blue1", "yellow4", "wheat4",
    "grey53", "gray53", "light_slate_grey", "light_slate_gray", "medium_purple",
    "light_slate_blue", "dark_olive_green3", "dark_sea_green", "light_sky_blue3", "sky_blue2",
    "dark_sea_green3", "dark_slate_gray3", "sky_blue1", "chartreuse1", "light_green",
    "pale_green1", "dark_slate_gray1", "red3", "medium_violet_red", "magenta3", "dark_orange3",
    "indian_red", "hot_pink3", "medium_orchid3", "medium_orchid", "medium_purple2",
    "dark_goldenrod", "light_salmon3", "rosy_brown", "grey63", "gray63", "medium_purple1", "gold3",
    "dark_khaki", "navajo_white3", "grey69", "gray69", "light_steel_blue3", "light_steel_blue",
    "yellow3", "dark_sea_green2", "light_cyan3", "light_sky_blue1", "green_yellow",
    "dark_olive_green2", "dark_sea_green1", "pale_turquoise1", "deep_pink3", "magenta2",
    "hot_pink2", "orchid", "medium_orchid1", "orange3", "light_pink3", "pink3", "plum3", "violet",
    "light_goldenrod3", "tan", "misty_rose3", "thistle3", "plum2", "khaki3", "light_goldenrod2",
    "light_yellow3", "grey84", "gray84", "light_steel_blue1", "yellow2", "dark_olive_green1",
    "honeydew2", "light_cyan1", "red1", "deep_pink2", "deep_pink1", "magenta1", "orange_red1",
    "indian_red1", "hot_pink", "dark_orange", "salmon1", "light_coral", "pale_violet_red1",
    "orchid2", "orchid1", "orange1", "sandy_brown", "light_salmon1", "light_pink1", "pink1",
    "plum1", "gold1", "navajo_white1", "misty_rose1", "thistle1", "yellow1", "light_goldenrod1",
    "khaki1", "wheat1", "cornsilk1", "grey100", "gray100", "grey3", "gray3", "grey7", "gray7",
    "grey11", "gray11", "grey15", "gray15", "grey19", "gray19", "grey23", "gray23", "grey27",
    "gray27", "grey30", "gray30", "grey35", "gray35", "grey39", "gray39", "grey42", "gray42",
    "grey46", "gray46", "grey50", "gray50", "grey54", "gray54", "grey58", "gray58", "grey62",
    "gray62", "grey66", "gray66", "grey70", "gray70", "grey74", "gray74", "grey78", "gray78",
    "grey82", "gray82", "grey85", "gray85", "grey89", "gray89", "grey93", "gray93"]

structure Style where
  /-- The attributes that are on or off, the last that was set first. -/
  attributes : List (String × Bool) := []
  colour : Option String := none
  background : Option String := none
  link : Option String := none

inductive StyleNameFault where
  /-- The words do not name a style. -/
  | noStyle
  /-- A part of a colour is no number. -/
  | noNumber
  deriving DecidableEq, Repr

def attribute? (word : String) : Option String :=
  (styleAttributes.find? fun (name, short) => name = word || short = some word).map (·.1)

def splitCommas : List Char → List (List Char)
  | [] => [[]]
  | c :: r =>
    match splitCommas r with
    | [] => []
    | first :: others => if c = ',' then [] :: first :: others else (c :: first) :: others

def argument? (start : String) (cs : List Char) : Option (List Char) :=
  if start.toList.isPrefixOf cs && cs.getLast? = some ')' then
    some ((cs.drop start.length).dropLast)
  else none

/-- A colour in small letters: a name, six hexadecimal digits, a number, or three parts of it. -/
def checkColour (word : String) : Except StyleNameFault String :=
  let cs := word.toList.map smallLetter
  let small := String.ofList cs
  let isByte (digits : List Char) : Bool := decimalValue digits ≤ 255
  let isDigits (digits : List Char) : Bool := digits ≠ [] && digits.all Char.isDigit
  let found (holds : Bool) : Except StyleNameFault String :=
    if holds then .ok small else .error .noStyle
  if small = "default" || colourNames.contains small then .ok small
  else
    match cs with
    | '#' :: digits => found (digits.length = 6 && digits.all isHexDigit)
    | _ =>
      match argument? "color(" cs, argument? "rgb(" cs with
      | some digits, _ => found (isDigits digits && digits.length ≤ 3 && isByte digits)
      | none, some text =>
        let parts := splitCommas text
        if text ≠ [] && (text.all fun c => c.isDigit || c = ',') && parts.length = 3 then
          if parts.all isDigits then found (parts.all isByte) else .error .noNumber
        else .error .noStyle
      | none, none => .error .noStyle

def words (cs : List Char) : List String :=
  let (last, others) := cs.foldr (fun c ((word, words) : List Char × List (List Char)) =>
    if isBlank c then ([], word :: words) else (c :: word, words)) ([], [])
  ((last :: others).filter (· ≠ [])).map String.ofList

def styleOfWords (s : Style) : List String → Except StyleNameFault Style
  | [] => .ok s
  | word :: r =>
    match String.ofList (word.toList.map smallLetter), r with
    | "on", w :: r => (checkColour w).bind fun c => styleOfWords { s with background := some c } r
    | "on", [] => .error .noStyle
    | "not", w :: r =>
      match attribute? w with
      | some a => styleOfWords { s with attributes := (a, false) :: s.attributes } r
      | none => .error .noStyle
    | "not", [] => .error .noStyle
    | "link", w :: r => styleOfWords { s with link := some w } r
    | "link", [] => .error .noStyle
    | small, r =>
      match attribute? small with
      | some a => styleOfWords { s with attributes := (a, true) :: s.attributes } r
      | none => (checkColour small).bind fun c => styleOfWords { s with colour := some c } r

def Style.text (s : Style) : String :=
  let attributes := styleAttributes.filterMap fun (name, _) =>
    (s.attributes.find? (·.1 = name)).map fun (_, isOn) => if isOn then name else "not " ++ name
  let colours := s.colour.toList ++ (s.background.map ("on " ++ ·)).toList
  let all := attributes ++ colours ++ (s.link.map ("link " ++ ·)).toList
  if all = [] then "none" else " ".intercalate all

/-- The normal form of the name of a style; none if a part of a colour is no number. -/
def styleName? (cs : List Char) : Option String :=
  let trimmed := trimBlanks cs
  if trimmed = "none".toList then some "none"
  else
    match styleOfWords {} (words cs) with
    | .ok s => some s.text
    | .error .noStyle => some (String.ofList (trimmed.map smallLetter))
    | .error .noNumber => none

end SchemaGrammar.Text
