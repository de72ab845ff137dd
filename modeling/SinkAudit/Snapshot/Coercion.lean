import SinkAudit.Snapshot.Basic
import SinkAudit.Text.Blank
import SinkAudit.Text.Lowercase
import SinkAudit.Text.Utf8

/-!
# Reading raw values into fields

Every field is read on its own: a failure of one never hides that of another. The library that does this
for the program (`pydantic`) decides in detail what a value may be, and its decisions are made explicit
here: bytes may spell a text, a flag may be a word or a number, and a name of a codec may be in any case.

The kinds of problems matter, because a rejection shows them. A value of a type that a field cannot have is
another problem than one of the right type that says nothing the field understands, and where the line runs
between the two is a matter of the library: for flags it runs through the numbers.

- `readIdentifier`, `readFlag`, `readCodec`: the three kinds of fields, each with its `Problem`s.
- `Given`: the raw value of a field, if there is one, and under which of its names it was given.
- `Snapshot.ofGiven`: the snapshot of seven raw values, or all problems in report order.
-/

namespace SinkAudit

/-- Why a raw value is no value of its field. The problems are those of the library, with its own names and
texts; `frozen` is about changing a snapshot and not about reading one. -/
inductive Problem where
  | missing
  | notText
  | notUnicode
  | tooShort
  | unreadableFlag
  | notFlag
  | unknownCodec
  | frozen
  deriving DecidableEq

namespace Problem

/-- The short name of the problem, which the library calls its type. Programs that handle rejections tell
problems apart by it. -/
def code : Problem → String
  | missing => "missing"
  | notText => "string_type"
  | notUnicode => "string_unicode"
  | tooShort => "string_too_short"
  | unreadableFlag => "bool_parsing"
  | notFlag => "bool_type"
  | unknownCodec => "enum"
  | frozen => "frozen_instance"

/-- The text of the problem. -/
def message : Problem → String
  | missing => "Field required"
  | notText => "Input should be a valid string"
  | notUnicode => "Input should be a valid string, unable to parse raw data as a unicode string"
  | tooShort => "String should have at least 1 character"
  | unreadableFlag => "Input should be a valid boolean, unable to interpret input"
  | notFlag => "Input should be a valid boolean"
  | unknownCodec => "Input should be 'none' or 'gzip'"
  | frozen => "Instance is frozen"

end Problem

/-- A problem of a field, with the name under which the value was given and the value itself. -/
structure FieldError where
  field : Field
  /-- The name under which the field was given, or its stable name. -/
  location : String
  problem : Problem
  deriving DecidableEq

/-- The problems that keep a configuration from being a snapshot: at most one for each field, and never
none when one is reported. -/
structure Rejection where
  errors : List FieldError
  deriving DecidableEq

namespace Rejection

/-- The line that counts the problems. -/
def summary (r : Rejection) : String :=
  let n := r.errors.length
  toString n ++ " validation error" ++ (if n = 1 then "" else "s") ++ " for ConfigurationSnapshot"

/-- The count, and for each problem its field and an indented text. -/
def text (r : Rejection) : String :=
  r.summary ++ String.join (r.errors.map fun e => "\n" ++ e.location ++ "\n  " ++ e.problem.message)

end Rejection

/-! ## The three kinds of fields -/

/-- The characters that a value spells: a text without lone surrogates, or bytes in UTF-8. Nothing
if the value is neither text nor bytes. -/
def spelledChars? (v : Value) : Option (Except Problem String) :=
  match v.text?, v with
  | some t, _ => some (match t.toString? with
    | some s => .ok s
    | none => .error .notUnicode)
  | none, .scalar (.bytes bs) => some (match Utf8.decode bs with
    | .ok cs => .ok (String.ofList cs)
    | .error _ => .error .notUnicode)
  | none, _ => none

/-- Read an identifier: text or bytes that are UTF-8, without the white space around them, and not empty
then. -/
def readIdentifier (v : Value) : Except Problem Identifier :=
  match spelledChars? v with
  | none => .error .notText
  | some (.error p) => .error p
  | some (.ok s) => match Identifier.ofString? s with
    | some i => .ok i
    | none => .error .tooShort

/-- The words for "no". -/
def noWords : List String := ["0", "off", "f", "false", "n", "no"]

/-- The words for "yes". -/
def yesWords : List String := ["1", "on", "t", "true", "y", "yes"]

/-- The flag that a word stands for, in either case of its ASCII letters. Blanks around it are not dropped,
other than by the comparison of values. -/
def flagOfWord? (s : String) : Option Bool :=
  let word := String.ofList (s.toList.map Char.toLower)
  if noWords.contains word then some false
  else if yesWords.contains word then some true
  else none

/-- Is the integer one of those that fit into 64 bits? Others do not reach the reader of flags as
integers. -/
def fitsWord (n : Int) : Bool :=
  Int64.minValue.toInt ≤ n && n ≤ Int64.maxValue.toInt

/-- Is the integer strictly between the bounds of 64 bits, as they are as floats? A float is taken for
an integer only then: the lower bound is a float itself, and the upper one rounds to `2 ^ 63`. -/
def fitsFloatWord (n : Int) : Bool := fitsWord n && n != Int64.minValue.toInt

/-- The flag that a number is. Other numbers are unreadable flags if they fit into the integers of the
reader, and no flags at all if they do not. -/
def flagOfNumber (n : Int) (fits : Bool) : Except Problem Bool :=
  if n = 0 then .ok false
  else if n = 1 then .ok true
  else if fits then .error .unreadableFlag
  else .error .notFlag

/-- Read a flag, as `store_keys` and `store_headers` are read: a truth value, one of the words, or a
number that is zero or one, be it an integer or a float. A float with a fraction, an infinite one or
none is no flag, but another whole one is an unreadable flag, as the same integer is. -/
def readFlag (v : Value) : Except Problem Bool :=
  match v with
  | .scalar (.bool b) => .ok b
  | .scalar (.int n) => flagOfNumber n (fitsWord n)
  | .scalar (.float x) => match Binary64.whole? x with
    | some n => flagOfNumber n (fitsFloatWord n)
    | none => .error .notFlag
  | v => match spelledChars? v, v.text? with
    | none, _ => .error .notFlag
    | some (.ok s), _ => match flagOfWord? s with
      | some b => .ok b
      | none => .error .unreadableFlag
    -- a text that is no Unicode is blamed for that, but bytes that are none only for saying no flag
    | some (.error p), some _ => .error p
    | some (.error _), none => .error .unreadableFlag

/-- Read a codec: its name as a text, in any case and between blanks, or exactly as bytes. Only texts are
tidied up before they are read (`normalize_compression_type`). -/
def readCodec (v : Value) : Except Problem Codec :=
  let spelled := match v.text? with
    | some t => spelledChars? (.scalar (.text (Text.lower (Text.strip t))))
    | none => spelledChars? v
  match spelled, v.text? with
  | some (.ok s), _ => match Codec.ofName? s with
    | some c => .ok c
    | none => .error .unknownCodec
  | some (.error p), some _ => .error p
  | _, _ => .error .unknownCodec

/-! ## All fields -/

/-- The raw value of a field, and the name it was given under, which an error about it shows. -/
structure Given where
  name : String
  value : Value

/-- Read a field, which falls back to a default if it has one and is not given. A default is not read: it is
a well-formed value to begin with. -/
def readField {α : Type} (read : Value → Except Problem α) (fallback : Option α) (f : Field) :
    Option Given → Except FieldError α
  | some g => match read g.value with
    | .ok a => .ok a
    | .error p => .error ⟨f, g.name, p⟩
  | none => match fallback with
    | some a => .ok a
    | none => .error ⟨f, f.name, .missing⟩

/-- The error of a reading that failed. -/
def errorOf {ε α : Type} : Except ε α → List ε
  | .ok _ => []
  | .error e => [e]

/-- The format of keys and headers whose format is not configured. -/
def Identifier.avro : Identifier := ⟨"avro", by decide +kernel, by decide⟩

/-- The snapshot of raw values, or all problems in report order. No problem keeps the other fields from being
read. -/
def Snapshot.ofGiven (given : Field → Option Given) : Except Rejection Snapshot :=
  let dataFormat := readField readIdentifier none .dataFormat (given .dataFormat)
  let storeKeys := readField readFlag (some false) .storeKeys (given .storeKeys)
  let keysFormat := readField readIdentifier (some .avro) .keysFormat (given .keysFormat)
  let storeHeaders := readField readFlag (some false) .storeHeaders (given .storeHeaders)
  let headersFormat := readField readIdentifier (some .avro) .headersFormat (given .headersFormat)
  let codec := readField readCodec (some .none) .compression (given .compression)
  let bucket := readField readIdentifier none .bucket (given .bucket)
  match dataFormat, storeKeys, keysFormat, storeHeaders, headersFormat, codec, bucket with
  | .ok a, .ok b, .ok c, .ok d, .ok e, .ok f, .ok g => .ok ⟨a, b, c, d, e, f, g⟩
  | _, _, _, _, _, _, _ => .error ⟨errorOf dataFormat ++ errorOf storeKeys ++ errorOf keysFormat
      ++ errorOf storeHeaders ++ errorOf headersFormat ++ errorOf codec ++ errorOf bucket⟩

end SinkAudit
