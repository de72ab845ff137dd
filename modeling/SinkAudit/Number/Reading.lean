import SinkAudit.Number.Binary64
import SinkAudit.Text.Blank
import SinkAudit.Text.Digit
import SinkAudit.Text.Quoted

/-!
# Numbers read from text

What `int` and `float` make of a text. White space at the ends is dropped, single underscores may stand
between digits, and the digits may be of any script. An integer in base ten with more digits than
`digitLimit` is not read: that is a guard of the interpreter against slow conversions, which the other
direction has as well (`Scalar.isTooLong`).

- `readInt`: a signed integer of a base; at most `digitLimit` digits in base ten.
- `notIntegerMessage`, `IntError.message`: the texts of errors.
- `readFloat?`: a signed decimal fraction with an optional exponent, an infinity or "nan".
-/

namespace SinkAudit.Number

open Text

/-- Integers of more decimal digits than this are not read. -/
def digitLimit : Nat := 4300

/-- The digits that continue a row, each after at most one underscore, and what follows the row. -/
def moreDigits (digit? : Char → Option Nat) : List Char → List Nat × List Char
  | [] => ([], [])
  | [c] =>
    match digit? c with
    | some d => ([d], [])
    | none => ([], [c])
  | c :: c' :: rest =>
    match digit? c with
    | some d =>
      let (ds, after) := moreDigits digit? (c' :: rest)
      (d :: ds, after)
    | none =>
      -- an underscore stands between two digits only
      match if c = '_' then digit? c' else none with
      | some d =>
        let (ds, after) := moreDigits digit? rest
        (d :: ds, after)
      | none => ([], c :: c' :: rest)

/-- A row of digits with single underscores between them, and what follows it; the row is empty if
the text does not begin with a digit. -/
def digitRow (digit? : Char → Option Nat) (cs : List Char) : List Nat × List Char :=
  match cs.head?.bind digit? with
  | some _ => moreDigits digit? cs
  | none => ([], cs)

/-- A sign, if there is one, and what follows it. -/
def splitSign : List Char → Bool × List Char
  | '-' :: rest => (true, rest)
  | '+' :: rest => (false, rest)
  | cs => (false, cs)

/-- Why a text is no integer. -/
inductive IntError where
  /-- It is not spelled as one. -/
  | malformed
  /-- It has this many decimal digits, which is too many. -/
  | tooLong (digits : Nat)
  deriving DecidableEq

/-- The text of the error about a text that spells no integer of a base. It shows the text as a literal,
of which no more than 200 characters. -/
def notIntegerMessage (base : Nat) (t : Text) : String :=
  "invalid literal for int() with base " ++ toString base ++ ": "
    ++ String.ofList ((quoteText t).toList.take 200)

/-- The text of the error about a text that is no decimal integer. -/
def IntError.message (t : Text) : IntError → String
  | malformed => notIntegerMessage 10 t
  | tooLong digits =>
    "Exceeds the limit (" ++ toString digitLimit ++ " digits) for integer string conversion: value has "
      ++ toString digits ++ " digits; use sys.set_int_max_str_digits() to increase the limit"

/-- Read a decimal integer. Too many digits are refused before what follows them is looked at. -/
def readInt (cs : List Char) : Except IntError Int :=
  let (negative, body) := splitSign (trimBy isWhiteSpace cs)
  let (digits, rest) := digitRow digitValue? body
  if digits.length > digitLimit then .error (.tooLong digits.length)
  else if digits.isEmpty || !rest.isEmpty then .error .malformed
  else
    let n : Int := numberOf 10 digits
    .ok (if negative then -n else n)

/-- The value of a digit in a base up to sixteen. -/
def digitIn? (base : Nat) (c : Char) : Option Nat :=
  match digitValue? c with
  | some d => if d < base then some d else none
  | none => (hexDigit? c).filter (· < base)

/-- Read an integer in base 2, 8 or 16, which may repeat the mark of its base. -/
def readIntIn? (base : Nat) (cs : List Char) : Option Int :=
  let (negative, body) := splitSign (trimBy isWhiteSpace cs)
  let marked := match base, body with
    | 2, '0' :: c :: rest => if c = 'b' ∨ c = 'B' then some rest else none
    | 8, '0' :: c :: rest => if c = 'o' ∨ c = 'O' then some rest else none
    | 16, '0' :: c :: rest => if c = 'x' ∨ c = 'X' then some rest else none
    | _, _ => none
  -- an underscore may follow the mark of the base
  let digits := match marked with
    | some ('_' :: rest) => rest
    | some rest => rest
    | none => body
  match digitRow (digitIn? base) digits with
  | (d :: ds, []) =>
    let n : Int := numberOf base (d :: ds)
    some (if negative then -n else n)
  | _ => none

/-- An exponent part: nothing, or `e` with a signed integer, up to the end. -/
def exponentPart? : List Char → Option Int
  | [] => some 0
  | c :: rest =>
    if c = 'e' ∨ c = 'E' then
      let (negative, body) := splitSign rest
      match digitRow digitValue? body with
      | (d :: ds, []) =>
        let n : Int := numberOf 10 (d :: ds)
        some (if negative then -n else n)
      | _ => none
    else none

/-- Read the words for infinities and for what is no number. -/
def floatWord? (cs : List Char) : Option Float :=
  let word := String.ofList (cs.map Char.toLower)
  if word = "inf" ∨ word = "infinity" then some (1.0 / 0.0)
  else if word = "nan" then some (0.0 / 0.0)
  else none

/-- Read a decimal fraction without its sign. -/
def unsignedFloat? (cs : List Char) : Option Float :=
  match floatWord? cs with
  | some x => some x
  | none =>
    let (whole, rest) := digitRow digitValue? cs
    let (fraction, rest) := match rest with
      | '.' :: rest => digitRow digitValue? rest
      | _ => ([], rest)
    -- a point needs digits on one side
    if whole.isEmpty && fraction.isEmpty then none
    else (exponentPart? rest).map fun e =>
      Binary64.nearest (numberOf 10 (whole ++ fraction)) (e - fraction.length)

/-- Read a float. -/
def readFloat? (cs : List Char) : Option Float :=
  let (negative, body) := splitSign (trimBy isWhiteSpace cs)
  (unsignedFloat? body).map fun x => if negative then -x else x

end SinkAudit.Number
