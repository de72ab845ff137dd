import SinkAudit.Number.Reading
import SinkAudit.Text.Lowercase

/-!
# Names of styles

A style is named by words: attributes, which `not` turns off, a color, a color of the background after
`on`, and an address after `link`. Names that mean the same style have the same canonical form. Any other
name stands for nothing but itself.

A closing tag closes the latest open style of its name, and names are compared in their canonical form
(`Style.normalize`): `[bold red]` is closed by `[/red bold]`. Whether a closing tag is an error therefore
depends on what names mean, and that is the only reason why styles are taken apart here.

- `Attribute`, `colorNames`: the words.
- `Style`, `Style.ofWords`: what words mean.
- `Style.name`: the canonical name of a style.
- `canonicalName`: the canonical form of a name.
-/

namespace SinkAudit.Terminal

/-- What a style may do to a text besides coloring it. -/
inductive Attribute where
  | bold | dim | italic | underline | blink | blink2 | reverse | conceal | strike | underline2 | frame
  | encircle | overline
  deriving DecidableEq

namespace Attribute

/-- All attributes with their names, in the order of canonical names. -/
def names : List (Attribute × String) :=
  [(bold, "bold"), (dim, "dim"), (italic, "italic"), (underline, "underline"), (blink, "blink"),
    (blink2, "blink2"), (reverse, "reverse"), (conceal, "conceal"), (strike, "strike"),
    (underline2, "underline2"), (frame, "frame"), (encircle, "encircle"), (overline, "overline")]

/-- The short names of attributes. -/
def shortNames : List (Attribute × String) :=
  [(dim, "d"), (bold, "b"), (italic, "i"), (underline, "u"), (reverse, "r"), (conceal, "c"),
    (strike, "s"), (underline2, "uu"), (overline, "o")]

/-- The attribute that a word names. -/
def ofWord? (word : String) : Option Attribute :=
  ((names ++ shortNames).find? (·.2 == word)).map Prod.fst

end Attribute

/-! ## Colors -/

/-- The colors that have a name. -/
def colorNames : List String := [
    "aquamarine1", "aquamarine3", "black", "blue", "blue1", "blue3", "blue_violet", "bright_black",
    "bright_blue", "bright_cyan", "bright_green", "bright_magenta", "bright_red", "bright_white",
    "bright_yellow", "cadet_blue", "chartreuse1", "chartreuse2", "chartreuse3", "chartreuse4",
    "cornflower_blue", "cornsilk1", "cyan", "cyan1", "cyan2", "cyan3", "dark_blue", "dark_cyan",
    "dark_goldenrod", "dark_green", "dark_khaki", "dark_magenta", "dark_olive_green1",
    "dark_olive_green2", "dark_olive_green3", "dark_orange", "dark_orange3", "dark_red",
    "dark_sea_green", "dark_sea_green1", "dark_sea_green2", "dark_sea_green3", "dark_sea_green4",
    "dark_slate_gray1", "dark_slate_gray2", "dark_slate_gray3", "dark_turquoise", "dark_violet",
    "deep_pink1", "deep_pink2", "deep_pink3", "deep_pink4", "deep_sky_blue1", "deep_sky_blue2",
    "deep_sky_blue3", "deep_sky_blue4", "dodger_blue1", "dodger_blue2", "dodger_blue3", "gold1",
    "gold3", "gray0", "gray3", "gray7", "gray11", "gray15", "gray19", "gray23", "gray27", "gray30",
    "gray35", "gray37", "gray39", "gray42", "gray46", "gray50", "gray53", "gray54", "gray58",
    "gray62", "gray63", "gray66", "gray69", "gray70", "gray74", "gray78", "gray82", "gray84",
    "gray85", "gray89", "gray93", "gray100", "green", "green1", "green3", "green4", "green_yellow",
    "grey0", "grey3", "grey7", "grey11", "grey15", "grey19", "grey23", "grey27", "grey30", "grey35",
    "grey37", "grey39", "grey42", "grey46", "grey50", "grey53", "grey54", "grey58", "grey62",
    "grey63", "grey66", "grey69", "grey70", "grey74", "grey78", "grey82", "grey84", "grey85",
    "grey89", "grey93", "grey100", "honeydew2", "hot_pink", "hot_pink2", "hot_pink3", "indian_red",
    "indian_red1", "khaki1", "khaki3", "light_coral", "light_cyan1", "light_cyan3",
    "light_goldenrod1", "light_goldenrod2", "light_goldenrod3", "light_green", "light_pink1",
    "light_pink3", "light_pink4", "light_salmon1", "light_salmon3", "light_sea_green",
    "light_sky_blue1", "light_sky_blue3", "light_slate_blue", "light_slate_gray",
    "light_slate_grey", "light_steel_blue", "light_steel_blue1", "light_steel_blue3",
    "light_yellow3", "magenta", "magenta1", "magenta2", "magenta3", "medium_orchid",
    "medium_orchid1", "medium_orchid3", "medium_purple", "medium_purple1", "medium_purple2",
    "medium_purple3", "medium_purple4", "medium_spring_green", "medium_turquoise",
    "medium_violet_red", "misty_rose1", "misty_rose3", "navajo_white1", "navajo_white3",
    "navy_blue", "orange1", "orange3", "orange4", "orange_red1", "orchid", "orchid1", "orchid2",
    "pale_green1", "pale_green3", "pale_turquoise1", "pale_turquoise4", "pale_violet_red1", "pink1",
    "pink3", "plum1", "plum2", "plum3", "plum4", "purple", "purple3", "purple4", "red", "red1",
    "red3", "rosy_brown", "royal_blue1", "salmon1", "sandy_brown", "sea_green1", "sea_green2",
    "sea_green3", "sky_blue1", "sky_blue2", "sky_blue3", "slate_blue1", "slate_blue3",
    "spring_green1", "spring_green2", "spring_green3", "spring_green4", "steel_blue", "steel_blue1",
    "steel_blue3", "tan", "thistle1", "thistle3", "turquoise2", "turquoise4", "violet", "wheat1",
    "wheat4", "white", "yellow", "yellow1", "yellow2", "yellow3", "yellow4"]

/-- Why words name no style. -/
inductive StyleError where
  /-- They do not fit together. -/
  | unknown
  /-- A part of a color is no number. -/
  | component (text : String) (e : Number.IntError)
  deriving DecidableEq

/-- The number that a part of a color is. -/
def componentOf (part : List Char) : Except StyleError Int :=
  match Number.readInt part with
  | .ok n => .ok n
  | .error e => .error (.component (String.ofList part) e)

/-- The text between an opening and a closing one. -/
def between? (opening closing : String) (word : String) : Option (List Char) :=
  let cs := word.toList
  let inner := (cs.drop opening.length).take (cs.length - opening.length - closing.length)
  if opening.toList ++ inner ++ closing.toList = cs then some inner else none

/-- A word in small letters names a color by its name, by six hexadecimal digits, by a number, or by
three parts. Numbers and parts are at most 255. -/
def checkColor (word : String) : Except StyleError Unit :=
  let require (b : Bool) : Except StyleError Unit := if b then .ok () else .error .unknown
  if word == "default" || colorNames.contains word then .ok ()
  else match between? "#" "" word, between? "color(" ")" word, between? "rgb(" ")" word with
    | some digits, _, _ =>
      require (digits.length == 6 && digits.all fun c => (Text.hexDigit? c).isSome)
    | _, some digits, _ =>
      require (digits.all Char.isDigit && 1 ≤ digits.length && digits.length ≤ 3
        && Text.numberOf 10 (digits.filterMap Text.asciiDigit?) ≤ 255)
    | _, _, some inner => do
      require (!inner.isEmpty && inner.all fun c => c == ',' || (Text.digitValue? c).isSome)
      let parts := inner.splitOn ','
      require (parts.length == 3)
      let numbers ← parts.mapM componentOf
      require (numbers.all (· ≤ 255))
    | _, _, _ => .error .unknown

/-! ## Styles -/

/-- A style. What was said of an attribute last comes first. -/
structure Style where
  attributes : List (Attribute × Bool) := []
  color : Option String := none
  background : Option String := none
  link : Option String := none
  deriving DecidableEq

namespace Style

/-- A style with what further words mean. -/
def ofWords (s : Style) : List String → Except StyleError Style
  | [] => .ok s
  | word :: rest =>
    let small := Text.lowerString word
    if small == "on" then match rest with
      | [] => .error .unknown
      | color :: rest =>
        let color := Text.lowerString color
        match checkColor color with
        | .ok _ => ofWords { s with background := some color } rest
        | .error e => .error e
    else if small == "not" then match rest with
      | [] => .error .unknown
      | word :: rest => match Attribute.ofWord? word with
        | some a => ofWords { s with attributes := (a, false) :: s.attributes } rest
        | none => .error .unknown
    else if small == "link" then match rest with
      | [] => .error .unknown
      | address :: rest => ofWords { s with link := some address } rest
    else match Attribute.ofWord? small with
      | some a => ofWords { s with attributes := (a, true) :: s.attributes } rest
      | none => match checkColor small with
        | .ok _ => ofWords { s with color := some small } rest
        | .error e => .error e

/-- The canonical name of a style. -/
def name (s : Style) : String :=
  let attributes := Attribute.names.filterMap fun (a, word) =>
    (s.attributes.lookup a).map fun isOn => if isOn then word else "not " ++ word
  let words := attributes ++ s.color.toList ++ (s.background.map ("on " ++ ·)).toList
    ++ (s.link.map ("link " ++ ·)).toList
  if words.isEmpty then "none" else " ".intercalate words

end Style

/-- The words of a text. -/
def nameWords (cs : List Char) : List String :=
  ((cs.splitOnP Text.isBlank).filter (!·.isEmpty)).map String.ofList

/-- The canonical form of a name: that of the style that it names, or else the name in small letters
without blanks around it. A part of a color that is no number is an error. -/
def canonicalName (cs : List Char) : Except (String × Number.IntError) String :=
  match nameWords cs with
  | ["none"] => .ok "none"
  | words => match Style.ofWords {} words with
    | .ok s => .ok s.name
    | .error .unknown => .ok (Text.lowerString (Text.stripString (String.ofList cs)))
    | .error (.component part e) => .error (part, e)

end SinkAudit.Terminal
