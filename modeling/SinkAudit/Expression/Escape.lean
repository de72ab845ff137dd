import SinkAudit.Expression.Token

/-!
# Escapes in texts

A backslash in a text begins an escape. Escapes of characters by their number need all their digits, and
an escape by name needs braces. Positions in messages count one for an ASCII character and ten for any
other one, as if it were written by its number.

One thing is simplified. Names of characters are not looked up in the tables of Unicode: a name is taken
to stand for a character if it is spelled as names are (`Escape.isName`).

- `Escape.faultFrom?`: the first escape of a text that stands for no character.
- `Escape.byteFaultFrom?`: the same for a row of bytes.
- `TextLiteral.fault?`: what is wrong with a text, its expressions apart.
-/

namespace SinkAudit.Expression

open Text

namespace Escape

/-- How far a character brings the position on. -/
def width (c : Char) : Nat := if c.toNat < 0x80 then 1 else 10

/-- How far a text brings the position on. A backslash that begins no escape counts as one that is
written by its number. -/
def length : List Char → Nat
  | [] => 0
  | ['\\'] => 6
  | '\\' :: c :: rest => (if c.toNat < 0x80 then 2 else 16) + length rest
  | c :: rest => width c + length rest

/-- The number of digits after the letter of an escape by number. -/
def digits (letter : Char) : Nat :=
  if letter = 'x' then 2 else if letter = 'u' then 4 else if letter = 'U' then 8 else 0

/-- Is it taken for the name of a character? Names are not looked up: they begin with two capitals, and go
on with capitals, digits, blanks and hyphens. -/
def isName (cs : List Char) : Bool :=
  2 ≤ cs.length && (cs.take 2).all Char.isUpper
    && cs.all fun c => c.isUpper || c.isDigit || c == ' ' || c == '-'

/-- The fault of an escape by name, given what follows its letter. -/
def nameFault? (position : Nat) (rest : List Char) : Option Fault :=
  match rest with
  | '\x7b' :: rest =>
    let name := rest.takeWhile (· != '\x7d')
    if name.length = rest.length ∨ name.isEmpty then
      some (.badEscape position (position + 2 + length name) .malformedName)
    else if isName name then none
    else some (.badEscape position (position + 2 + length (name ++ ['\x7d'])) .unknownName)
  | _ => some (.badEscape position (position + 1) .malformedName)

/-- The first fault of a text from a position on. -/
def faultFrom? (position : Nat) : List Char → Option Fault
  | [] => none
  | ['\\'] => none
  | '\\' :: c :: rest =>
    let number := (rest.take (digits c)).takeWhile fun c => (hexDigit? c).isSome
    if number.length < digits c then
      some (.badEscape position (position + 1 + number.length) (.truncated c))
    else if 0x10FFFF < numberOf 16 (number.filterMap hexDigit?) then
      some (.badEscape position (position + 9) .beyondUnicode)
    -- the letter N announces a name, which is only looked at for how it is spelt
    else match if c = 'N' then nameFault? position rest else none with
      | some e => some e
      | none => faultFrom? (position + if c.toNat < 0x80 then 2 else 16) rest
  | c :: rest => faultFrom? (position + width c) rest

/-- The first fault of a row of bytes from a position on. -/
def byteFaultFrom? (position : Nat) : List Char → Option Fault
  | [] => none
  | ['\\'] => none
  | '\\' :: c :: rest =>
    if c = 'x' && ((rest.take 2).filter fun c => (hexDigit? c).isSome).length < 2 then
      some (.badByteEscape position)
    else byteFaultFrom? (position + 2) rest
  | _ :: rest => byteFaultFrom? (position + 1) rest

end Escape

/-- The fault of a text apart from the expressions in it. Formatted texts are decoded together with
these. -/
def TextLiteral.fault? (t : TextLiteral) : Option Fault :=
  if t.isBytes && t.body.any (0x80 ≤ ·.toNat) then some .bytesBeyondAscii
  else if t.isRaw || t.isFormatted then none
  else if t.isBytes then Escape.byteFaultFrom? 0 t.body
  else Escape.faultFrom? 0 t.body

end SinkAudit.Expression
