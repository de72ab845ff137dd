import SinkAudit.Document.Basic
import SinkAudit.Number.Reading
import SinkAudit.Text.Lowercase
import SinkAudit.Yaml.Tag
import SinkAudit.Yaml.Token

/-!
# The values of YAML scalars

Once the tag of a scalar is known, its text is read by the constructor of that tag
(`construct_yaml_int` and its siblings). A tag may be written out, so a constructor meets texts that no
plain scalar of its type has; what it makes of them is an error with a text of its own, and these texts
reach the messages of the loader.

- `intValue`, `floatValue`: numbers, underscores ignored, sexagesimal places added up.
- `base64?`: bytes; characters outside the alphabet are ignored, and missing padding is a fault.
- `timeValue`: dates and times, of fractions the first six digits.
- `scalarValue`: the value of a text that has a tag.
-/

namespace SinkAudit.Yaml

/-- A text for reading numbers from: a lone surrogate becomes a character that no number holds. -/
def visible (t : Text) : List Char := t.map fun p => p.char?.getD '\ufffd'

/-- A text without underscores. -/
def dropMarks (t : Text) : Text := t.filter (· != .scalar '_')

/-- The sign of a number and the rest of its text. A number has a first character, and after a sign
another one. -/
def splitNumber (t : Text) : Bool × Text :=
  match t with
  | .scalar '-' :: rest => (true, rest)
  | .scalar '+' :: rest => (false, rest)
  | _ => (false, t)

/-- A decimal integer, or the error that it gives rise to. -/
def decimalInt (t : Text) : Except Error Int :=
  match Number.readInt (visible t) with
  | .ok n => .ok n
  | .error .malformed => .error (.notInteger 10 t)
  | .error (.tooLong n) => .error (.longInteger n)

/-- An integer of another base, or the error that it gives rise to. -/
def intIn (base : Nat) (t : Text) : Except Error Int :=
  match Number.readIntIn? base (visible t) with
  | some n => .ok n
  | none => .error (.notInteger base t)

/-- Split a text at colons. -/
def splitColons : Text → List Text
  | [] => [[]]
  | p :: rest => match splitColons rest with
    | part :: parts => if p = .scalar ':' then [] :: part :: parts else (p :: part) :: parts
    | [] => [[p]]

/-- The value of sexagesimal places, most significant first. -/
def sexagesimal (places : List Int) : Int := places.foldl (fun n d => n * 60 + d) 0

/-- A sum with the values of further sexagesimal places, of which the first is worth `unit`. What a
place is worth has to be in the range of floats. -/
def addPlaces (sum : Float) (unit : Int) : List Float → Except Error Float
  | [] => .ok sum
  | d :: rest =>
    let worth := Binary64.ofInt unit
    if worth.isInf then .error .floatRange else addPlaces (sum + d * worth) (unit * 60) rest

/-- The value of sexagesimal places, added up from the last one. -/
def sexagesimalFloat (places : List Float) : Except Error Float := addPlaces 0.0 1 places.reverse

/-- The value of an integer's text. -/
def intValue (t : Text) : Except Error Int := do
  let t := dropMarks t
  let (negative, body) := splitNumber t
  let n ← match body with
    | [] => .error .noDigits
    | [.scalar '0'] => .ok 0
    | .scalar '0' :: .scalar 'b' :: digits => intIn 2 digits
    | .scalar '0' :: .scalar 'x' :: digits => intIn 16 digits
    | .scalar '0' :: _ => intIn 8 body
    | _ =>
      if body.contains (.scalar ':') then
        return (if negative then -1 else 1) * sexagesimal (← (splitColons body).mapM decimalInt)
      else decimalInt body
  return if negative then -n else n

/-- A decimal fraction, or the error that it gives rise to. -/
def decimalFloat (t : Text) : Except Error Float :=
  match Number.readFloat? (visible t) with
  | some x => .ok x
  | none => .error (.notFloat t)

/-- The value of a float's text. -/
def floatValue (t : Text) : Except Error Float := do
  let t := Text.lower (dropMarks t)
  if t.isEmpty then .error .noDigits
  let (negative, body) := splitNumber t
  let x ←
    if body.isString ".inf" then .ok (1.0 / 0.0)
    else if body.isString ".nan" then .ok (0.0 / 0.0)
    else if body.contains (.scalar ':') then
      let x ← sexagesimalFloat (← (splitColons body).mapM decimalFloat)
      return (if negative then -1.0 else 1.0) * x
    else decimalFloat body
  return if negative then -x else x

/-- The words for flags. -/
def flagValues : List (String × Bool) :=
  [("yes", true), ("no", false), ("true", true), ("false", false), ("on", true), ("off", false)]

/-- The value of a flag's text. -/
def flagValue (t : Text) : Except Error Bool :=
  let word := Text.lower t
  match flagValues.find? fun w => word.isString w.1 with
  | some w => .ok w.2
  | none => .error (.notFlag word)

/-! ## Bytes -/

/-- The six bits of a character of the alphabet. -/
def sixBits? (c : Char) : Option Nat :=
  if 'A' ≤ c ∧ c ≤ 'Z' then some (c.toNat - 0x41)
  else if 'a' ≤ c ∧ c ≤ 'z' then some (c.toNat - 0x61 + 26)
  else if c.isDigit then some (c.toNat - 0x30 + 52)
  else if c = '+' then some 62
  else if c = '/' then some 63
  else none

/-- The bytes of base64 characters, after `place` characters of a group that left some bits behind and
`pads` marks of padding. The text ends where a group is padded to four. -/
def base64From (place bits pads : Nat) : List Char → Option (List UInt8)
  | [] => if place = 0 then some [] else none
  | c :: rest =>
    if c = '=' then
      if 2 ≤ place ∧ 4 ≤ place + pads + 1 then some []
      else base64From place bits (if 2 ≤ place then pads + 1 else pads) rest
    else match sixBits? c with
      | none => base64From place bits pads rest
      | some six =>
        match place with
        | 0 => base64From 1 six 0 rest
        | 1 => (base64From 2 (six % 16) 0 rest).map (UInt8.ofNat (bits * 4 + six / 16) :: ·)
        | 2 => (base64From 3 (six % 4) 0 rest).map (UInt8.ofNat (bits * 16 + six / 4) :: ·)
        | _ => (base64From 0 0 0 rest).map (UInt8.ofNat (bits * 64 + six) :: ·)

/-- The bytes of an ASCII text in base64. -/
def base64? (t : Text) : Option (List UInt8) := do
  let cs ← Text.chars? t
  if cs.all (·.toNat < 0x80) then base64From 0 0 0 cs else none

/-! ## Times -/

/-- The microseconds of the digits of a fraction. -/
def microseconds (fraction : List Char) : Nat :=
  let six := fraction.take 6
  number (six ++ List.replicate (6 - six.length) '0')

/-- The value of a date's or time's text. -/
def timeValue (t : Text) : Except Error Scalar :=
  match TimeText.ofChars? (Text.dropFinalBreak (visible t)) with
  | none => .error .notTime
  | some parts =>
    let date := Date.check parts.year (number parts.month) (number parts.day)
    match parts.clock with
    | none => match date with
      | .ok d => .ok (.date d)
      | .error e => .error (.calendar e)
    | some (hour, minute, second, fraction, offset) =>
      match DateTime.check date hour minute second (microseconds fraction) offset with
      | .ok t => .ok (.datetime t)
      | .error e => .error (.calendar e)

/-- The value of a text that has a tag. -/
def scalarValue (tag : Tag) (t : Text) : Except Error Scalar :=
  match tag with
  | .null => .ok .null
  | .bool => (flagValue t).map .bool
  | .int => (intValue t).map .int
  | .float => (floatValue t).map .float
  | .binary => match base64? t with
    | some bs => .ok (.bytes bs)
    | none => .error .malformed
  | .timestamp => timeValue t
  | .str => .ok (.text t)
  | _ => .error .malformed

end SinkAudit.Yaml
