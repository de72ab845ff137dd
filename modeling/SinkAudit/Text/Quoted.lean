import SinkAudit.Text.Basic
import SinkAudit.Text.Digit
import SinkAudit.Text.Printable

/-!
# Quoted literals

Values are shown in messages as literals. A text stands in single quotes, or in double quotes if it
holds a single quote and no double one; what is not printable is escaped by its number.

This is `repr` of a text and of bytes. A message shows the value that it refuses in this way, and a list
of formats too (`roleMessage`), so that a message tells the value from the words around it.

- `chooseQuote`: which quote a literal takes.
- `quoteText`, `quoteString`, `quoteBytes`: the literals. They hold no lone surrogate.
- `shown`: a text with nothing but its lone surrogates escaped.
-/

namespace SinkAudit.Text

/-- The quote of a literal, from what it holds. -/
def chooseQuote (hasSingle hasDouble : Bool) : Char :=
  if hasSingle && !hasDouble then '"' else '\''

/-- A number in hexadecimal, marked as an escape. -/
def hexEscape (mark : Char) (width n : Nat) : List Char := '\\' :: mark :: digitsOf 16 width n

/-- The escape of a code point by its number: two, four or eight digits. -/
def numberEscape (n : Nat) : List Char :=
  if n < 0x100 then hexEscape 'x' 2 n
  else if n < 0x10000 then hexEscape 'u' 4 n
  else hexEscape 'U' 8 n

/-- One character inside a literal. -/
def quoteChar (quote c : Char) : List Char :=
  if c = quote ∨ c = '\\' then ['\\', c]
  else if c = '\t' then ['\\', 't']
  else if c = '\n' then ['\\', 'n']
  else if c = '\r' then ['\\', 'r']
  else if isPrintable c then [c]
  else numberEscape c.toNat

/-- One code point inside a literal. -/
def quoteCodePoint (quote : Char) : CodePoint → List Char
  | .scalar c => quoteChar quote c
  | .surrogate k => numberEscape (CodePoint.surrogate k).toNat

/-- A text as a string, lone surrogates being shown by their escapes. -/
def shown (t : Text) : String :=
  String.ofList (t.flatMap fun
    | .scalar c => [c]
    | c => numberEscape c.toNat)

/-- The literal of a text. -/
def quoteText (t : Text) : String :=
  let quote := chooseQuote (t.contains (.scalar '\'')) (t.contains (.scalar '"'))
  String.ofList (quote :: t.flatMap (quoteCodePoint quote) ++ [quote])

/-- The literal of a string. -/
def quoteString (s : String) : String := quoteText (ofString s)

/-- One byte inside a literal. -/
def quoteByte (quote : Char) (b : UInt8) : List Char :=
  if b.toNat < 0x80 then quoteChar quote (Char.ofNat b.toNat) else hexEscape 'x' 2 b.toNat

/-- The literal of a row of bytes. -/
def quoteBytes (bs : List UInt8) : String :=
  let quote := chooseQuote (bs.contains 0x27) (bs.contains 0x22)
  String.ofList ('b' :: quote :: bs.flatMap (quoteByte quote) ++ [quote])

end SinkAudit.Text
