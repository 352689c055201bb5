import Fleet.Text.Blank
import Fleet.Text.Case.Basic
import Fleet.Text.Digit

/-! Styles: how a text is shown, as words tell it. Styles with the same effect have one normal
form. -/

namespace Fleet.Markup

/-- The words for the ways to set a text, in the order of the normal form. -/
def effects : List String :=
  ["bold", "dim", "italic", "underline", "blink", "blink2", "reverse", "conceal", "strike",
   "underline2", "frame", "encircle", "overline"]

/-- The short words for ways to set a text. -/
def shortEffects : List (String × String) :=
  [("d", "dim"), ("b", "bold"), ("i", "italic"), ("u", "underline"), ("r", "reverse"),
   ("c", "conceal"), ("s", "strike"), ("uu", "underline2"), ("o", "overline")]

/-- The way to set a text that a word tells. -/
def effect? (word : String) : Option String :=
  if effects.contains word then some word else shortEffects.lookup word

/-- The names of colours. -/
def colourNames : List String :=
  ["black", "red", "green", "yellow", "blue", "magenta", "cyan", "white", "bright_black",
   "bright_red", "bright_green", "bright_yellow", "bright_blue", "bright_magenta", "bright_cyan",
   "bright_white", "grey0", "gray0", "navy_blue", "dark_blue", "blue3", "blue1", "dark_green",
   "deep_sky_blue4", "dodger_blue3", "dodger_blue2", "green4", "spring_green4", "turquoise4",
   "deep_sky_blue3", "dodger_blue1", "green3", "spring_green3", "dark_cyan", "light_sea_green",
   "deep_sky_blue2", "deep_sky_blue1", "spring_green2", "cyan3", "dark_turquoise", "turquoise2",
   "green1", "spring_green1", "medium_spring_green", "cyan2", "cyan1", "dark_red", "deep_pink4",
   "purple4", "purple3", "blue_violet", "orange4", "grey37", "gray37", "medium_purple4",
   "slate_blue3", "royal_blue1", "chartreuse4", "dark_sea_green4", "pale_turquoise4",
   "steel_blue", "steel_blue3", "cornflower_blue", "chartreuse3", "cadet_blue", "sky_blue3",
   "steel_blue1", "pale_green3", "sea_green3", "aquamarine3", "medium_turquoise", "chartreuse2",
   "sea_green2", "sea_green1", "aquamarine1", "dark_slate_gray2", "dark_magenta", "dark_violet",
   "purple", "light_pink4", "plum4", "medium_purple3", "slate_blue1", "yellow4", "wheat4",
   "grey53", "gray53", "light_slate_grey", "light_slate_gray", "medium_purple",
   "light_slate_blue", "dark_olive_green3", "dark_sea_green", "light_sky_blue3", "sky_blue2",
   "dark_sea_green3", "dark_slate_gray3", "sky_blue1", "chartreuse1", "light_green",
   "pale_green1", "dark_slate_gray1", "red3", "medium_violet_red", "magenta3", "dark_orange3",
   "indian_red", "hot_pink3", "medium_orchid3", "medium_orchid", "medium_purple2",
   "dark_goldenrod", "light_salmon3", "rosy_brown", "grey63", "gray63", "medium_purple1", "gold3",
   "dark_khaki", "navajo_white3", "grey69", "gray69", "light_steel_blue3", "light_steel_blue",
   "yellow3", "dark_sea_green2", "light_cyan3", "light_sky_blue1", "green_yellow",
   "dark_olive_green2", "dark_sea_green1", "pale_turquoise1", "deep_pink3", "magenta2",
   "hot_pink2", "orchid", "medium_orchid1", "orange3", "light_pink3", "pink3", "plum3", "violet",
   "light_goldenrod3", "tan", "misty_rose3", "thistle3", "plum2", "khaki3", "light_goldenrod2",
   "light_yellow3", "grey84", "gray84", "light_steel_blue1", "yellow2", "dark_olive_green1",
   "honeydew2", "light_cyan1", "red1", "deep_pink2", "deep_pink1", "magenta1", "orange_red1",
   "indian_red1", "hot_pink", "dark_orange", "salmon1", "light_coral", "pale_violet_red1",
   "orchid2", "orchid1", "orange1", "sandy_brown", "light_salmon1", "light_pink1", "pink1",
   "plum1", "gold1", "navajo_white1", "misty_rose1", "thistle1", "yellow1", "light_goldenrod1",
   "khaki1", "wheat1", "cornsilk1", "grey100", "gray100", "grey3", "gray3", "grey7", "gray7",
   "grey11", "gray11", "grey15", "gray15", "grey19", "gray19", "grey23", "gray23", "grey27",
   "gray27", "grey30", "gray30", "grey35", "gray35", "grey39", "gray39", "grey42", "gray42",
   "grey46", "gray46", "grey50", "gray50", "grey54", "gray54", "grey58", "gray58", "grey62",
   "gray62", "grey66", "gray66", "grey70", "gray70", "grey74", "gray74", "grey78", "gray78",
   "grey82", "gray82", "grey85", "gray85", "grey89", "gray89", "grey93", "gray93"]

/-- A number of one to three decimal digits. -/
def smallNumber? (text : List Char) : Option Nat :=
  if text.isEmpty || 3 < text.length || !text.all Char.isDigit then none
  else some (text.foldl (fun total c => 10 * total + (c.toNat - '0'.toNat)) 0)

/-- The number of one of the 256 colours that have numbers. -/
def shade? (text : List Char) : Option Nat :=
  (smallNumber? text).filter fun shade => shade ≤ 255

/-- What stands between a given beginning and a closing parenthesis. -/
def between? (beginning : String) (text : List Char) : Option (List Char) :=
  if beginning.toList.isPrefixOf text && text.getLast? == some ')' then
    some (text.drop beginning.length).dropLast
  else none

/-- The shades of red, green and blue between commas. Each is a number, and numbers beyond the last
of the shades are told apart from texts that are no numbers. -/
def shades? (text : List Char) : Except Text.NumberFlaw (Option (List Nat)) := do
  let parts := (String.ofList text).splitOn ","
  if parts.length != 3 || !text.all fun c => c == ',' || Text.isDigit c then return none
  let shades ← parts.mapM fun part => Text.readNumber part.toList
  return if shades.all fun shade => shade ≤ 255 then some shades else none

/-- Whether a digit is one of the sixteen, in lower case. -/
def isHexDigit (c : Char) : Bool :=
  c.isDigit || ('a' ≤ c && c ≤ 'f')

/-- Whether a word in lower case tells a colour: by its name, by its number, or by its shades. -/
def isColour (word : String) : Except Text.NumberFlaw Bool :=
  if word == "default" || colourNames.contains word then .ok true
  else match word.toList with
    | '#' :: digits => .ok (digits.length == 6 && digits.all isHexDigit)
    | text =>
      match between? "color(" text, between? "rgb(" text with
      | some number, _ => .ok (shade? number).isSome
      | none, some parts => (shades? parts).map Option.isSome
      | none, none => .ok false

/-- Why words tell no style. -/
inductive StyleFlaw where
  /-- One of them has no meaning. -/
  | unknown
  /-- A shade in one of them is no number. -/
  | number (flaw : Text.NumberFlaw)
deriving DecidableEq

/-- A style: which ways to set a text it turns on and off, its colours and its link. -/
structure Style where
  turned : List (String × Bool) := []
  colour : Option String := none
  ground : Option String := none
  link : Option String := none
deriving DecidableEq

namespace Style

/-- A style with a way to set a text turned on or off. The last word on it counts. -/
def turn (style : Style) (effect : String) (on : Bool) : Style :=
  { style with turned := (effect, on) :: style.turned }

/-- The colour that a word tells. -/
def readColour (word : String) : Except StyleFlaw String :=
  let word := Text.lowerCase word
  match isColour word with
  | .ok true => .ok word
  | .ok false => .error .unknown
  | .error flaw => .error (.number flaw)

/-- The way to set a text that a word tells. -/
def readEffect (word : String) : Except StyleFlaw String :=
  match effect? word with
  | some effect => .ok effect
  | none => .error .unknown

/-- The style that some words tell beside another. The first word without a meaning is a flaw. -/
def readWords (style : Style) : List String → Except StyleFlaw Style
  | [] => .ok style
  | word :: rest =>
    match Text.lowerCase word, rest with
    | "on", [] | "not", [] | "link", [] => .error .unknown
    | "on", ground :: rest => do
      let ground ← readColour ground
      { style with ground := some ground }.readWords rest
    | "not", next :: rest => do
      let effect ← readEffect next
      (style.turn effect false).readWords rest
    | "link", link :: rest => { style with link := some link }.readWords rest
    | word, rest =>
      match effect? word with
      | some effect => (style.turn effect true).readWords rest
      | none => do
        let colour ← readColour word
        { style with colour := some colour }.readWords rest

/-- The words of the normal form. -/
def toWords (style : Style) : List String :=
  let turned := effects.filterMap fun effect =>
    (style.turned.lookup effect).map fun on =>
      if on then effect else "not " ++ effect
  turned ++ style.colour.toList ++ (style.ground.map ("on " ++ ·)).toList ++
    (style.link.map ("link " ++ ·)).toList

end Style

/-- The words of a text, which blanks divide. -/
def wordsOf (text : List Char) : List String :=
  ((text.splitBy fun a b => Text.isBlank a == Text.isBlank b).filter fun word =>
    !word.any Text.isBlank).map String.ofList

/-- The style that a text tells. -/
def Style.read (text : List Char) : Except StyleFlaw Style :=
  if wordsOf text == ["none"] then .ok {} else ({} : Style).readWords (wordsOf text)

/-- The normal form of what tells a style. What tells none is kept in lower case. -/
def normalForm (text : List Char) : Except Text.NumberFlaw String :=
  match Style.read text with
  | .ok style => .ok (if style.toWords.isEmpty then "none" else " ".intercalate style.toWords)
  | .error .unknown => .ok (Text.lowerCase (Text.trim (String.ofList text)))
  | .error (.number flaw) => .error flaw

/-- Looks at what tells a style. It need not tell one, but its shades have to be numbers. -/
def checkStyle (text : String) : Except Text.NumberFlaw Unit :=
  match Style.read text.toList with
  | .ok _ | .error .unknown => .ok ()
  | .error (.number flaw) => .error flaw

end Fleet.Markup
