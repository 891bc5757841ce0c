import ErrorTables.Numeral
import ErrorTables.Text.LowerCase

/-!
Styles as they are named in markup: effects that are on or off, a colour, a background and a
link. Two names mean the same style if their canonical names agree. Some words look like a colour
but have parts that are no numbers; a name with such a word is at fault.
-/

namespace ErrorTables.Console

open Text

/-- The effects of a style with the names that each is known by, the canonical one first. -/
def effectNames : List (List String) :=
  [ ["bold", "b"], ["dim", "d"], ["italic", "i"], ["underline", "u"], ["blink"], ["blink2"],
    ["reverse", "r"], ["conceal", "c"], ["strike", "s"], ["underline2", "uu"], ["frame"],
    ["encircle"], ["overline", "o"] ]

/-- The canonical name of an effect. -/
def effect? (word : String) : Option String :=
  (effectNames.find? fun names => names.contains word).bind List.head?

/-- The words that name colours. -/
def colourTable : String :=
  "default black red green yellow blue magenta cyan white bright_black bright_red bright_green
    bright_yellow bright_blue bright_magenta bright_cyan bright_white grey0 gray0 navy_blue
    dark_blue blue3 blue1 dark_green deep_sky_blue4 dodger_blue3 dodger_blue2 green4
    spring_green4 turquoise4 deep_sky_blue3 dodger_blue1 green3 spring_green3 dark_cyan
    light_sea_green deep_sky_blue2 deep_sky_blue1 spring_green2 cyan3 dark_turquoise turquoise2
    green1 spring_green1 medium_spring_green cyan2 cyan1 dark_red deep_pink4 purple4 purple3
    blue_violet orange4 grey37 gray37 medium_purple4 slate_blue3 royal_blue1 chartreuse4
    dark_sea_green4 pale_turquoise4 steel_blue steel_blue3 cornflower_blue chartreuse3 cadet_blue
    sky_blue3 steel_blue1 pale_green3 sea_green3 aquamarine3 medium_turquoise chartreuse2
    sea_green2 sea_green1 aquamarine1 dark_slate_gray2 dark_magenta dark_violet purple
    light_pink4 plum4 medium_purple3 slate_blue1 yellow4 wheat4 grey53 gray53 light_slate_grey
    light_slate_gray medium_purple light_slate_blue dark_olive_green3 dark_sea_green
    light_sky_blue3 sky_blue2 dark_sea_green3 dark_slate_gray3 sky_blue1 chartreuse1 light_green
    pale_green1 dark_slate_gray1 red3 medium_violet_red magenta3 dark_orange3 indian_red
    hot_pink3 medium_orchid3 medium_orchid medium_purple2 dark_goldenrod light_salmon3 rosy_brown
    grey63 gray63 medium_purple1 gold3 dark_khaki navajo_white3 grey69 gray69 light_steel_blue3
    light_steel_blue yellow3 dark_sea_green2 light_cyan3 light_sky_blue1 green_yellow
    dark_olive_green2 dark_sea_green1 pale_turquoise1 deep_pink3 magenta2 hot_pink2 orchid
    medium_orchid1 orange3 light_pink3 pink3 plum3 violet light_goldenrod3 tan misty_rose3
    thistle3 plum2 khaki3 light_goldenrod2 light_yellow3 grey84 gray84 light_steel_blue1 yellow2
    dark_olive_green1 honeydew2 light_cyan1 red1 deep_pink2 deep_pink1 magenta1 orange_red1
    indian_red1 hot_pink dark_orange salmon1 light_coral pale_violet_red1 orchid2 orchid1 orange1
    sandy_brown light_salmon1 light_pink1 pink1 plum1 gold1 navajo_white1 misty_rose1 thistle1
    yellow1 light_goldenrod1 khaki1 wheat1 cornsilk1 grey100 gray100 grey3 gray3 grey7 gray7
    grey11 gray11 grey15 gray15 grey19 gray19 grey23 gray23 grey27 gray27 grey30 gray30 grey35
    gray35 grey39 gray39 grey42 gray42 grey46 gray46 grey50 gray50 grey54 gray54 grey58 gray58
    grey62 gray62 grey66 gray66 grey70 gray70 grey74 gray74 grey78 gray78 grey82 gray82 grey85
    gray85 grey89 gray89 grey93 gray93"

/-- What stands between the start of a word and the parenthesis that closes it. -/
def between? (opening : String) (word : List Char) : Option (List Char) :=
  if opening.toList.isPrefixOf word && word.getLast? = some ')' then
    some (word.drop opening.length).dropLast
  else none

/-- A decimal number of at most three digits that is not above 255. -/
def isColourNumber (digits : List Char) : Bool :=
  !digits.isEmpty && digits.length ≤ 3 && digits.all Char.isDigit &&
    Numeral.ofDigits .decimal (digits.filterMap Numeral.asciiDigit?) ≤ 255

/-- Six hexadecimal digits in ASCII. -/
def isColourCode (digits : List Char) : Bool :=
  digits.length = 6 && digits.all fun c => (Numeral.asciiDigit? c).any (· < 16)

/-- Three decimal numbers, in digits of any script, of which none is above 255. -/
def isColourTriple (text : List Char) : Except Numeral.Fault Bool :=
  let parts := text.splitOn ','
  if !text.isEmpty && parts.length = 3 && text.all (fun c => c == ',' || (decimalDigit? c).isSome)
  then do
    let numbers ← parts.mapM fun part => Numeral.read .decimal (String.ofList part)
    return numbers.all (· ≤ 255)
  else .ok false

/-- A word in lower case names a colour: by its name, its number, or its parts. -/
def isColour (word : List Char) : Except Numeral.Fault Bool :=
  match word with
  | '#' :: digits => .ok (isColourCode digits)
  | _ =>
      match between? "color(" word, between? "rgb(" word with
      | some number, _ => .ok (isColourNumber number)
      | _, some numbers => isColourTriple numbers
      | _, _ => .ok ((splitBlanks colourTable.toList).contains word)

/-- A style by the words that it is made of. -/
structure Style where
  effects : List (String × Bool) := []
  colour : Option String := none
  background : Option String := none
  link : Option String := none
  deriving DecidableEq, Repr

namespace Style

/-- The style with an effect switched on or off. -/
def switch (style : Style) (effect : String) (on : Bool) : Style :=
  { style with effects := (effect, on) :: style.effects }

/-- A style with the changes that a list of words asks for, if all of them have a meaning. -/
def readWords (style : Style) : List (List Char) → Except Numeral.Fault (Option Style)
  | [] => .ok (some style)
  | word :: rest => do
      let lowered := lower word
      let name := String.ofList lowered
      if name = "on" then
        match rest with
        | colour :: rest =>
            let colour := lower colour
            if ← isColour colour then
              readWords { style with background := some (String.ofList colour) } rest
            else return none
        | [] => return none
      else if name = "not" then
        match rest with
        | effect :: rest =>
            match effect? (String.ofList effect) with
            | some effect => readWords (style.switch effect false) rest
            | none => return none
        | [] => return none
      else if name = "link" then
        match rest with
        | link :: rest => readWords { style with link := some (String.ofList link) } rest
        | [] => return none
      else
        match effect? name with
        | some effect => readWords (style.switch effect true) rest
        | none =>
            if ← isColour lowered then readWords { style with colour := some name } rest
            else return none

/-- The style that a name means, if it means one. -/
def read (name : List Char) : Except Numeral.Fault (Option Style) :=
  if trim name = "none".toList then .ok (some {}) else readWords {} (splitBlanks name)

/-- The words of a name hold no faulty colour, as far as they have a meaning. -/
def check (name : List Char) : Except Numeral.Fault Unit :=
  (read name).map fun _ => ()

/-- The words of the canonical name of a style. -/
def words (style : Style) : List String :=
  let effects := effectNames.filterMap fun names =>
    names.head?.bind fun name =>
      (style.effects.lookup name).map fun on => if on then name else "not " ++ name
  let background := style.background.toList.flatMap fun colour => ["on", colour]
  effects ++ style.colour.toList ++ background ++
    style.link.toList.flatMap fun link => ["link", link]

/-- The canonical name of a style. -/
def name (style : Style) : String :=
  if style.words.isEmpty then "none" else " ".intercalate style.words

/-- The canonical form of a name. A name that means no style stands for itself in lower case. -/
def canonicalName (name : List Char) : Except Numeral.Fault String :=
  (read name).map fun style =>
    match style with
    | some style => style.name
    | none => String.ofList (lower (trim name))

end Style

end ErrorTables.Console
