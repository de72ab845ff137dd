import SinkAudit.Text.Blank
import SinkAudit.Text.Digit
import SinkAudit.Yaml.ScalarText

/-!
# Tags

A node's tag says what type its value has. A plain scalar without a tag gets one from its text, by the
rules of YAML 1.1. By these `on`, `yes` and `off` are flags, `1:30` is the integer ninety, and `0x1F`,
`0b11` and `017` are integers too, while `1e3` is a text, for a float needs a point. They decide which
values of a configuration are texts at all, so they are spelled out here and not approximated.

The order in which the spellings are tried in `Tag.ofPlain` is that of the resolvers; for a text that
fits two of them it matters.

- `Tag`: the types; `Tag.ofUri`: the type that a full tag names.
- `isIntText`, `isFloatText`: the spellings of numbers, among them the sexagesimal ones, whose places
  are parted by colons.
- `TimeText.ofChars?`: the parts of a date or time.
- `Tag.ofPlain`: the tag of a plain scalar.
-/

namespace SinkAudit.Yaml

/-- The type of a node. -/
inductive Tag where
  | null
  | bool
  | int
  | float
  | binary
  | timestamp
  | str
  | omap
  | pairs
  | set
  | seq
  | map
  | merge
  | value
  | unknown
  deriving DecidableEq

/-- The common start of the tags of the standard types. -/
def standardBase : String := "tag:yaml.org,2002:"

/-- The standard types by name. -/
def standardTags : List (String × Tag) :=
  [("null", .null), ("bool", .bool), ("int", .int), ("float", .float), ("binary", .binary),
    ("timestamp", .timestamp), ("str", .str), ("omap", .omap), ("pairs", .pairs), ("set", .set),
    ("seq", .seq), ("map", .map), ("merge", .merge), ("value", .value)]

/-- The type that a full tag names. -/
def Tag.ofUri (uri : String) : Tag :=
  (standardTags.find? fun t => standardBase ++ t.1 == uri).elim .unknown Prod.snd

/-! ## Spellings -/

/-- A digit or an underscore. -/
def isDigitOrMark (c : Char) : Bool := c.isDigit || c == '_'

/-- The text without a sign before it. -/
def dropSign (cs : List Char) : List Char := (cs.head?.elim cs) fun c =>
  if c == '+' || c == '-' then cs.drop 1 else cs

/-- Split a text at every occurrence of a character. -/
def splitAll (mark : Char) : List Char → List (List Char)
  | [] => [[]]
  | c :: rest => match splitAll mark rest with
    | part :: parts => if c == mark then [] :: part :: parts else (c :: part) :: parts
    | [] => [[c]]

/-- A digit, and then digits and underscores. -/
def isDigits : List Char → Bool
  | c :: rest => c.isDigit && rest.all isDigitOrMark
  | [] => false

/-- A digit other than zero, and then digits and underscores. -/
def isPositive (cs : List Char) : Bool := isDigits cs && cs.head? != some '0'

/-- A sexagesimal place: one digit, or two below sixty. -/
def isSixtieth : List Char → Bool
  | [c] => c.isDigit
  | [c, d] => '0' ≤ c && c ≤ '5' && d.isDigit
  | _ => false

/-- The spellings of integers: binary, octal, decimal, hexadecimal and sexagesimal. -/
def isIntText (cs : List Char) : Bool :=
  let body := dropSign cs
  match body with
  | '0' :: 'b' :: c :: rest => (c :: rest).all fun c => c == '0' || c == '1' || c == '_'
  | '0' :: 'x' :: c :: rest =>
    (c :: rest).all fun c => (Text.hexDigit? c).isSome || c == '_'
  | '0' :: rest => rest.all fun c => ('0' ≤ c && c ≤ '7') || c == '_'
  | _ => match splitAll ':' body with
    | first :: places => isPositive first && places.all isSixtieth
    | [] => false

/-- An exponent with its sign, up to the end, or nothing. -/
def isExponent : List Char → Bool
  | [] => true
  | e :: sign :: digits =>
    (e == 'e' || e == 'E') && (sign == '+' || sign == '-') && !digits.isEmpty
      && digits.all Char.isDigit
  | _ => false

/-- The spellings of floats: with a point, and with an exponent only if it is signed; sexagesimal with
a point; infinities and what is no number. -/
def isFloatText (cs : List Char) : Bool :=
  let body := dropSign cs
  let (whole, rest) := (body.takeWhile (· != '.'), body.dropWhile (· != '.'))
  match rest with
  | [] => false
  | _ :: fraction =>
    let tail := fraction.dropWhile isDigitOrMark
    let words := [".inf", ".Inf", ".INF"].map String.toList
    let unsignedWords := [".nan", ".NaN", ".NAN"].map String.toList
    (isDigits whole && isExponent tail)
      || (whole.isEmpty && cs.head? == some '.' && fraction.head?.any Char.isDigit && isExponent tail)
      || (match splitAll ':' whole with
        | first :: place :: places => isDigits first && (place :: places).all isSixtieth && tail.isEmpty
        | _ => false)
      || words.contains body || unsignedWords.contains cs

/-! ## Times -/

/-- The parts of a date or time. -/
structure TimeText where
  year : Nat
  /-- The digits of the month and the day. -/
  month : List Char
  day : List Char
  /-- Hour, minute and second, the digits of the fraction, and the offset in minutes. -/
  clock : Option (Nat × Nat × Nat × List Char × Option Int)

/-- The number of a row of digits. -/
def number (ds : List Char) : Nat := Text.numberOf 10 (ds.filterMap Text.asciiDigit?)

/-- Between `least` and `most` digits at the start of a text, and the rest. -/
def takeDigits? (least most : Nat) (cs : List Char) : Option (List Char × List Char) :=
  let ds := (cs.take most).takeWhile Char.isDigit
  if least ≤ ds.length then some (ds, cs.drop ds.length) else none

/-- The rest of a text after a mark that it begins with. -/
def afterMark? (mark : Char) : List Char → Option (List Char)
  | c :: rest => if c == mark then some rest else none
  | [] => none

/-- An offset from universal time up to the end of the text, or nothing. -/
def offset? (cs : List Char) : Option (Option Int) :=
  match cs.dropWhile isSpaceOrTab with
  | [] => if cs.isEmpty then some none else none
  | ['Z'] => some (some 0)
  | sign :: rest => do
    unless sign == '+' || sign == '-' do none
    let (hours, rest) ← takeDigits? 1 2 rest
    let minutes ← match rest with
      | [] => some 0
      | ':' :: rest => match takeDigits? 2 2 rest with
        | some (ds, []) => some (number ds)
        | _ => none
      | _ => none
    -- only the hours are needed; the sign counts for the minutes too
    let total : Int := number hours * 60 + minutes
    return some (if sign == '-' then -total else total)

/-- The time of a day, from what separates it from the date on. -/
def clock? (cs : List Char) : Option (Nat × Nat × Nat × List Char × Option Int) := do
  let rest ← match cs with
    | c :: rest =>
      if c == 'T' || c == 't' then some rest
      else if isSpaceOrTab c then some (rest.dropWhile isSpaceOrTab)
      else none
    | [] => none
  let (hour, rest) ← takeDigits? 1 2 rest
  let (minute, rest) ← takeDigits? 2 2 (← afterMark? ':' rest)
  let (second, rest) ← takeDigits? 2 2 (← afterMark? ':' rest)
  let (fraction, rest) := match rest with
    | '.' :: rest => (rest.takeWhile Char.isDigit, rest.dropWhile Char.isDigit)
    | _ => ([], rest)
  return (number hour, number minute, number second, fraction, ← offset? rest)

/-- The parts of a date or time. -/
def TimeText.ofChars? (cs : List Char) : Option TimeText := do
  let (year, rest) ← takeDigits? 4 4 cs
  let (month, rest) ← takeDigits? 1 2 (← afterMark? '-' rest)
  let (day, rest) ← takeDigits? 1 2 (← afterMark? '-' rest)
  if rest.isEmpty then return ⟨number year, month, day, none⟩
  else return ⟨number year, month, day, some (← clock? rest)⟩

/-- The spellings of dates and times. A date alone has two digits for the month and the day. -/
def isTimeText (cs : List Char) : Bool :=
  (TimeText.ofChars? cs).any fun t => t.clock.isSome || (t.month.length == 2 && t.day.length == 2)

/-! ## Plain scalars -/

/-- The words for flags, in the three cases that count. -/
def flagWords : List String :=
  ["yes", "Yes", "YES", "no", "No", "NO", "true", "True", "TRUE", "false", "False", "FALSE", "on",
    "On", "ON", "off", "Off", "OFF"]

/-- The tag of a plain scalar. One line feed at the end does not count, unless it is all there is. -/
def Tag.ofPlain (text : Text) : Tag :=
  match Text.chars? text with
  | none => .str
  | some cs =>
    let body := Text.dropFinalBreak cs
    let s := String.ofList body
    if cs.isEmpty then .null
    else if body.isEmpty then .str
    else if flagWords.contains s then .bool
    else if isFloatText body then .float
    else if isIntText body then .int
    else if s == "<<" then .merge
    else if ["~", "null", "Null", "NULL"].contains s then .null
    else if isTimeText body then .timestamp
    else if s == "=" then .value
    else if ["!", "&", "*"].contains s then .unknown
    else .str

end SinkAudit.Yaml
