import Lamella.Text.Case
import Lamella.Value.Convert

/-!
# Styles

A tag names a style: attributes such as `bold`, a colour, a colour after `on` to write upon, and a
target after `link`. Styles of one effect have one normal form, by which tags are opened and closed:
attributes in a fixed order, then the colours, then the target. A name that says no style is its own
normal form, in small letters.

## Main definitions

- `Style`: what a style says.
- `Style.ofText?`: reads a style.
- `Style.normal`: the normal form of a name.
-/

namespace Lamella

/-- What a style says: the attributes that are switched on or off, a colour, a colour to write upon,
and a target. -/
structure Style where
  attributes : List (String × Bool) := []
  colour : Option Text := none
  ground : Option Text := none
  target : Option Text := none
deriving DecidableEq, Inhabited

namespace Style

/-- The attributes in the order of the normal form. -/
def attributeNames : List String :=
  ["bold", "dim", "italic", "underline", "blink", "blink2", "reverse", "conceal", "strike",
    "underline2", "frame", "encircle", "overline"]

/-- The short names of attributes. -/
def shortNames : List (String × String) :=
  [("d", "dim"), ("b", "bold"), ("i", "italic"), ("u", "underline"), ("r", "reverse"),
    ("c", "conceal"), ("s", "strike"), ("uu", "underline2"), ("o", "overline")]

/-- The attribute of a name. -/
def attribute? (name : Text) : Option String :=
  (attributeNames.find? fun (full : String) => (full : Text) == name).or
    ((shortNames.find? fun entry => (entry.1 : Text) == name).map (·.2))

/-- The colours that have names, as a table. -/
def colourNames : String := "black red green yellow blue magenta cyan white bright_black
  bright_red bright_green bright_yellow bright_blue bright_magenta bright_cyan bright_white
  grey0 gray0 navy_blue
  dark_blue blue3 blue1 dark_green deep_sky_blue4 dodger_blue3 dodger_blue2 green4 spring_green4
  turquoise4 deep_sky_blue3 dodger_blue1 green3 spring_green3 dark_cyan light_sea_green
  deep_sky_blue2 deep_sky_blue1 spring_green2 cyan3 dark_turquoise turquoise2 green1 spring_green1
  medium_spring_green cyan2 cyan1 dark_red deep_pink4 purple4 purple3 blue_violet orange4 grey37
  gray37 medium_purple4 slate_blue3 royal_blue1 chartreuse4 dark_sea_green4 pale_turquoise4
  steel_blue steel_blue3 cornflower_blue chartreuse3 cadet_blue sky_blue3 steel_blue1 pale_green3
  sea_green3 aquamarine3 medium_turquoise chartreuse2 sea_green2 sea_green1 aquamarine1
  dark_slate_gray2 dark_magenta dark_violet purple light_pink4 plum4 medium_purple3 slate_blue1
  yellow4 wheat4 grey53 gray53 light_slate_grey light_slate_gray medium_purple light_slate_blue
  dark_olive_green3 dark_sea_green light_sky_blue3 sky_blue2 dark_sea_green3 dark_slate_gray3
  sky_blue1 chartreuse1 light_green pale_green1 dark_slate_gray1 red3 medium_violet_red magenta3
  dark_orange3 indian_red hot_pink3 medium_orchid3 medium_orchid medium_purple2 dark_goldenrod
  light_salmon3 rosy_brown grey63 gray63 medium_purple1 gold3 dark_khaki navajo_white3 grey69
  gray69 light_steel_blue3 light_steel_blue yellow3 dark_sea_green2 light_cyan3 light_sky_blue1
  green_yellow dark_olive_green2 dark_sea_green1 pale_turquoise1 deep_pink3 magenta2 hot_pink2
  orchid medium_orchid1 orange3 light_pink3 pink3 plum3 violet light_goldenrod3 tan misty_rose3
  thistle3 plum2 khaki3 light_goldenrod2 light_yellow3 grey84 gray84 light_steel_blue1 yellow2
  dark_olive_green1 honeydew2 light_cyan1 red1 deep_pink2 deep_pink1 magenta1 orange_red1
  indian_red1 hot_pink dark_orange salmon1 light_coral pale_violet_red1 orchid2 orchid1 orange1
  sandy_brown light_salmon1 light_pink1 pink1 plum1 gold1 navajo_white1 misty_rose1 thistle1
  yellow1 light_goldenrod1 khaki1 wheat1 cornsilk1 grey100 gray100 grey3 gray3 grey7 gray7 grey11
  gray11 grey15 gray15 grey19 gray19 grey23 gray23 grey27 gray27 grey30 gray30 grey35 gray35
  grey39 gray39 grey42 gray42 grey46 gray46 grey50 gray50 grey54 gray54 grey58 gray58 grey62
  gray62 grey66 gray66 grey70 gray70 grey74 gray74 grey78 gray78 grey82 gray82 grey85 gray85
  grey89 gray89 grey93 gray93"

/-- The names of colours; one of them is that of the colour that is used anyway. -/
def colours : List String := "default" :: Text.tableEntries colourNames

/-- Whether a character is a digit of base sixteen, in small letters. -/
def isHex (c : Char) : Bool := c.isDigit || ('a' ≤ c && c ≤ 'f')

/-- What stands in parentheses after a name. -/
def parameters? (name s : List Char) : Option (List Char) :=
  let start := name ++ ['(']
  if start.isPrefixOf s ∧ s.getLast? = some ')' then
    some ((s.drop start.length).take (s.length - start.length - 1))
  else none

/-- Whether three shares of a colour, with commas between them, are within their bounds. A share
that is left out is a fault. -/
def areShares (s : List Char) : Except Fault Bool :=
  match Text.pieces (· = ',') s with
  | [red, green, blue] => do
    let shares ← [red, green, blue].mapM fun share => Value.integerOfText (Text.ofChars share)
    return shares.all (· ≤ 255)
  | _ => .ok false

/-- Whether characters are a colour: by its name, by its number, or by its shares of red, green and
blue. -/
def isColourOfChars (word : List Char) : Except Fault Bool :=
  if String.ofList word ∈ colours then .ok true
  else
    match word, parameters? "color".toList word, parameters? "rgb".toList word with
    | '#' :: ds, _, _ => .ok (ds.length == 6 && ds.all isHex)
    | _, some number, _ =>
      .ok (number ≠ [] && number.length ≤ 3 && number.all Char.isDigit &&
        Decimal.value number ≤ 255)
    | _, _, some shares =>
      if shares ≠ [] ∧ shares.all fun c => c = ',' ∨ (Text.digitValue? c).isSome then
        areShares shares
      else .ok false
    | _, _, _ => .ok false

/-- Whether a word in small letters is a colour. -/
def isColour (word : Text) : Except Fault Bool := word.chars?.elim (.ok false) isColourOfChars

/-- A style with an attribute switched on or off. -/
def switch (s : Style) (name : String) (on : Bool) : Style :=
  { s with attributes := (name, on) :: s.attributes }

/-- Reads the words of a style, after what the words before them said; nothing for words that say no
style. -/
def ofWords (said : Style) : List Text → Except Fault (Option Style)
  | [] => .ok (some said)
  | word :: rest =>
    let small := Text.lower word
    match small.display, rest with
    | "on", colour :: rest => do
      if ← isColour (Text.lower colour) then
        ofWords { said with ground := some (Text.lower colour) } rest
      else return none
    | "not", name :: rest =>
      match attribute? name with
      | some name => ofWords (said.switch name false) rest
      | none => .ok none
    | "link", target :: rest => ofWords { said with target := some target } rest
    | _, rest =>
      match attribute? small with
      | some name => ofWords (said.switch name true) rest
      | none => do
        if ← isColour small then ofWords { said with colour := some small } rest else return none

/-- The normal form of a style; one that says nothing has a word for that. -/
def text (s : Style) : Text :=
  let attributes : List Text := attributeNames.filterMap fun name =>
    (s.attributes.lookup name).map fun on => if on then name else "not " ++ name
  let words := attributes ++ s.colour.toList ++
    (s.ground.map fun (word : Text) => "on " ++ word).toList ++
    (s.target.map fun (word : Text) => "link " ++ word).toList
  if words = [] then "none" else Text.join " " words

/-- Reads a style; nothing for a text that says no style. -/
def ofText? (s : Text) : Except Fault (Option Style) :=
  if Text.strip s = "none" then .ok (some {}) else ofWords {} (Text.words s)

/-- The normal form of a name. -/
def normal (name : Text) : Except Fault Text := do
  match ← ofText? name with
  | some style => return style.text
  | none => return Text.lower (Text.strip name)

end Style

end Lamella
