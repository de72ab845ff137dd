import SinkAudit.Document.Basic
import SinkAudit.Number.Reading
import SinkAudit.PropertiesFile

/-!
# Reading JSON

What `load_properties` makes of a `.json` file (`json.loads`): a document in the notation of RFC 8259, with
`NaN`, `Infinity` and `-Infinity` as numbers and lone surrogates in strings. A name that comes again in
an object changes the value of the first and keeps its place.

Faults matter as much as values do. A file that is no document ends a command with the text of the
fault in its message, so `Problem.message` and `SyntaxError.message` spell the texts out, with the line,
the column and the position that they name. Every reader takes the characters that remain and gives back
those that remain after it; a fault keeps the characters from its place on, and the position is found
from their number at the end. No reader counts characters on its way.

- `readString`, `readNumber`: the leaves.
- `readValue`, `readItems`, `readMembers`: values, the rest of an array and the rest of an object. Each
  step takes one from `fuel`; every second step takes a character, so twice the length is enough, and no
  document is refused for want of fuel.
- `depthLimit`: where the nesting of a document is refused.
- `parse`: a whole document.

That the reader undoes the writer is proved in `SinkAudit.Proofs.Json.RoundTrip`.
-/

namespace SinkAudit.Json

open Text

/-- What is wrong at a place of a document. -/
inductive Problem where
  | byteOrderMark
  | value
  | extra
  | name
  | colon
  | comma
  | controlCharacter
  | unterminated
  | escape
  | unicodeEscape
  deriving DecidableEq

/-- The text of the problem. -/
def Problem.message : Problem → String
  | byteOrderMark => "Unexpected UTF-8 BOM (decode using utf-8-sig)"
  | value => "Expecting value"
  | extra => "Extra data"
  | name => "Expecting property name enclosed in double quotes"
  | colon => "Expecting ':' delimiter"
  | comma => "Expecting ',' delimiter"
  | controlCharacter => "Invalid control character at"
  | unterminated => "Unterminated string starting at"
  | escape => "Invalid \\escape"
  | unicodeEscape => "Invalid \\uXXXX escape"

/-- Why reading stopped. Only the first of these is about the notation: the other two are limits, which
are reported as errors of another kind. -/
inductive Fault where
  /-- A problem, and what remains from its place on. -/
  | problem (p : Problem) (rest : List Char)
  /-- An integer with too many digits. -/
  | longInteger (digits : Nat)
  /-- An array or object inside too many others. -/
  | tooDeep (object : Bool)

/-- A problem and its place: the characters before it. -/
structure SyntaxError where
  problem : Problem
  before : List Char

/-- The text of the error, which names its line, its column and its position. -/
def SyntaxError.message (e : SyntaxError) : String :=
  let line := (e.before.filter (· == '\n')).length + 1
  let column := (e.before.reverse.takeWhile (· != '\n')).length + 1
  e.problem.message ++ ": line " ++ toString line ++ " column " ++ toString column ++ " (char "
    ++ toString e.before.length ++ ")"

/-- The blanks of the notation. -/
def isBlank (c : Char) : Bool := c == ' ' || c == '\t' || c == '\n' || c == '\r'

/-- What remains after blanks. -/
def skipBlanks (cs : List Char) : List Char := cs.dropWhile isBlank

/-! ## Strings -/

/-- The character that an escape other than a numeric one stands for. -/
def shortEscape? (c : Char) : Option Char :=
  if c = '"' ∨ c = '\\' ∨ c = '/' then some c
  else if c = 'b' then some '\x08'
  else if c = 'f' then some '\x0c'
  else if c = 'n' then some '\n'
  else if c = 'r' then some '\r'
  else if c = 't' then some '\t'
  else none

/-- Read a string from behind its first quote, leaving surrogate halves apart. `start` is what
remained at that quote. A numeric escape must be followed by something. -/
def readUnits (start : List Char) : List Char → Except Fault (Text × List Char)
  | [] => .error (.problem .unterminated start)
  | '"' :: rest => .ok ([], rest)
  | '\\' :: 'u' :: a :: b :: c :: d :: e :: rest => match PropertiesFile.fourDigits? a b c d with
    -- both halves of a pair are escaped one by one; they are joined when the text is complete
    | some p => (readUnits start (e :: rest)).map fun (t, after) => (p :: t, after)
    | none => .error (.problem .unicodeEscape ('u' :: a :: b :: c :: d :: e :: rest))
  | '\\' :: 'u' :: rest => .error (.problem .unicodeEscape ('u' :: rest))
  | '\\' :: c :: rest => match shortEscape? c with
    | some c' => (readUnits start rest).map fun (t, after) => (.scalar c' :: t, after)
    | none => .error (.problem .escape ('\\' :: c :: rest))
  | '\\' :: [] => .error (.problem .unterminated start)
  | c :: rest =>
    if c.toNat < 0x20 then .error (.problem .controlCharacter (c :: rest))
    else (readUnits start rest).map fun (t, after) => (.scalar c :: t, after)

/-- Read a string from behind its first quote. -/
def readString (cs : List Char) : Except Fault (Text × List Char) :=
  (readUnits ('"' :: cs) cs).map fun (t, after) => (joinPairs t, after)

/-! ## Numbers -/

/-- A row of ASCII digits, and what remains after it. -/
def spanDigits (cs : List Char) : List Char × List Char :=
  (cs.takeWhile Char.isDigit, cs.dropWhile Char.isDigit)

/-- The whole part of a number: zero, or digits that do not begin with zero. -/
def wholePart? (cs : List Char) : Option (List Char × List Char) :=
  match cs with
  | '0' :: rest => some (['0'], rest)
  | c :: _ => if c.isDigit then some (spanDigits cs) else none
  | [] => none

/-- The digits after a point, if there are some. -/
def fractionPart (cs : List Char) : List Char × List Char :=
  match cs with
  | '.' :: c :: rest => if c.isDigit then spanDigits (c :: rest) else ([], cs)
  | _ => ([], cs)

/-- The value of a row of digits. -/
def digitsValue (ds : List Char) : Nat := numberOf 10 (ds.filterMap asciiDigit?)

/-- An exponent, if there is one with digits. -/
def exponentPart (cs : List Char) : Option Int × List Char :=
  match cs with
  | c :: rest =>
    if c = 'e' ∨ c = 'E' then
      let (negative, body) := Number.splitSign rest
      match spanDigits body with
      -- a letter without digits is no exponent and is left where it stands
      | ([], _) => (none, cs)
      | (ds, after) =>
        let n : Int := digitsValue ds
        (some (if negative then -n else n), after)
    else (none, cs)
  | [] => (none, cs)

/-- Read a number: an integer unless it has a fraction or an exponent. A point without digits after it
and an exponent without digits are left for what comes next, which finds extra data there. -/
def readNumber (cs : List Char) : Except Fault (Scalar × List Char) :=
  let (negative, body) := match cs with
    | '-' :: rest => (true, rest)
    | _ => (false, cs)
  match wholePart? body with
  | none => .error (.problem .value cs)
  | some (whole, rest) =>
    let (fraction, rest) := fractionPart rest
    -- a number without fraction and exponent is an integer, any other a float
    match fraction, exponentPart rest with
    | [], (none, rest) =>
      if whole.length > Number.digitLimit then .error (.longInteger whole.length)
      else
        let n : Int := digitsValue whole
        .ok (.int (if negative then -n else n), rest)
    | _, (exponent, rest) =>
      let x := Binary64.nearest (digitsValue (whole ++ fraction))
        (exponent.getD 0 - fraction.length)
      .ok (.float (if negative then -x else x), rest)

/-! ## Values -/

/-- What remains after a word, if the text begins with it. -/
def afterWord? (word : String) (cs : List Char) : Option (List Char) :=
  if word.toList.isPrefixOf cs then some (cs.drop word.length) else none

/-- The words that are values. -/
def words : List (String × Scalar) :=
  [("null", .null), ("true", .bool true), ("false", .bool false), ("NaN", .float (0.0 / 0.0)),
    ("Infinity", .float (1.0 / 0.0)), ("-Infinity", .float (-1.0 / 0.0))]

/-- Read a scalar that is no string. -/
def readScalar (cs : List Char) : Except Fault (Scalar × List Char) :=
  match words.findSome? fun (word, s) => (afterWord? word cs).map (s, ·) with
  | some found => .ok found
  | none => readNumber cs

/-- How deep arrays and objects may lie inside each other.

This is the recursion limit of the interpreter, a thousand calls, less the calls that are open when a
command reads a file. It is not a constant of the notation: a caller with a deeper stack of its own, or a
host with another limit, would have another number here. The number is that of the command line, which is
what the readers of this development stand under. -/
def depthLimit : Nat := 980

mutual

/-- Read a value inside `depth` arrays and objects. -/
def readValue (depth : Nat) : Nat → List Char → Except Fault (Value × List Char)
  | 0, cs => .error (.problem .value cs)
  | fuel + 1, cs =>
    match cs with
    | '"' :: rest => (readString rest).map fun (t, after) => (.scalar (.text t), after)
    | '[' :: rest =>
      -- the limit is looked at on entering, also if nothing is inside
      if depth ≥ depthLimit then .error (.tooDeep false)
      else
        let rest := skipBlanks rest
        match rest with
        | ']' :: after => .ok (.list [], after)
        | _ => (readItems (depth + 1) fuel rest).map fun (vs, after) => (.list vs, after)
    | '\x7b' :: rest =>
      if depth ≥ depthLimit then .error (.tooDeep true)
      else
        let rest := skipBlanks rest
        match rest with
        | '\x7d' :: after => .ok (.mapping [], after)
        | _ => (readMembers (depth + 1) fuel rest).map fun (es, after) =>
          (.mapping (OrderedMap.ofList es).toList, after)
    | _ => (readScalar cs).map fun (s, after) => (.scalar s, after)

/-- Read the items of an array from the first one on. -/
def readItems (depth : Nat) : Nat → List Char → Except Fault (List Value × List Char)
  | 0, cs => .error (.problem .value cs)
  | fuel + 1, cs => do
    let (v, rest) ← readValue depth fuel cs
    match skipBlanks rest with
    | ']' :: after => return ([v], after)
    | ',' :: rest =>
      let (vs, after) ← readItems depth fuel (skipBlanks rest)
      return (v :: vs, after)
    | rest => .error (.problem .comma rest)

/-- Read the members of an object from the first one on. -/
def readMembers (depth : Nat) : Nat → List Char → Except Fault (List (Scalar × Value) × List Char)
  | 0, cs => .error (.problem .value cs)
  | fuel + 1, cs =>
    match cs with
    | '"' :: rest => do
      let (k, rest) ← readString rest
      match skipBlanks rest with
      | ':' :: rest =>
        let (v, rest) ← readValue depth fuel (skipBlanks rest)
        match skipBlanks rest with
        | '\x7d' :: after => return ([(.text k, v)], after)
        | ',' :: rest =>
          let (es, after) ← readMembers depth fuel (skipBlanks rest)
          return ((.text k, v) :: es, after)
        | rest => .error (.problem .comma rest)
      | rest => .error (.problem .colon rest)
    | _ => .error (.problem .name cs)

end

/-- Why a text is no document. `malformed` is a `JSONDecodeError`; the limits are errors of other kinds,
a `ValueError` and a `RecursionError`. -/
inductive Error where
  | malformed (e : SyntaxError)
  | longInteger (digits : Nat)
  | tooDeep (object : Bool)

/-- Read all of a text. -/
def readAll (cs : List Char) : Except Fault Value := do
  match cs with
  | '\ufeff' :: _ => .error (.problem .byteOrderMark cs)
  | _ =>
    let (v, rest) ← readValue 0 (2 * cs.length + 2) (skipBlanks cs)
    match skipBlanks rest with
    | [] => return v
    | rest => .error (.problem .extra rest)

/-- The value of a document. -/
def parse (cs : List Char) : Except Error Value :=
  match readAll cs with
  | .ok v => .ok v
  | .error (.problem p rest) => .error (.malformed ⟨p, cs.take (cs.length - rest.length)⟩)
  | .error (.longInteger n) => .error (.longInteger n)
  | .error (.tooDeep object) => .error (.tooDeep object)

end SinkAudit.Json
