import SinkAudit.Calendar
import SinkAudit.Text.Basic

/-!
# Tokens of a YAML text

The first of the three stages of `yaml.safe_load` cuts a text into tokens, and opens and closes the
block collections that its indentation stands for.

- `Token`: marks of structure, and scalars.
- `Error`: why a text is no document. Faults of the notation are all one; a scalar whose text does not
  fit its type has an error of its own.
- `Tokens`: the tokens up to the end of the text, or up to a fault.
-/

namespace SinkAudit.Yaml

/-- Why a text is no document. -/
inductive Error where
  /-- The text is not in the notation, or a value does not fit its place. -/
  | malformed
  /-- An escape names no code point. -/
  | codePoint (n : Nat)
  /-- The text of an integer is not spelled as one. -/
  | notInteger (base : Nat) (text : Text)
  /-- An integer has too many digits. -/
  | longInteger (digits : Nat)
  /-- The text of a float is not spelled as one. -/
  | notFloat (text : Text)
  /-- The text of a flag is no word for one. -/
  | notFlag (text : Text)
  /-- The text of a number has no digits. -/
  | noDigits
  /-- The text of a time is not spelled as one. -/
  | notTime
  /-- A mapping stands for a time. -/
  | notTimeText
  /-- A sexagesimal place is worth more than a float can be. -/
  | floatRange
  /-- Collections lie in each other too deep, or a value stands for itself. -/
  | tooDeep
  /-- A date or time has a field out of range. -/
  | calendar (e : CalendarError)

/-- What stands after a percent sign at the start of a line. -/
inductive Directive where
  | version (major : Nat)
  | handle (name base : String)
  | other

/-- A token. -/
inductive Token where
  | directive (d : Directive)
  | documentStart
  | documentEnd
  | blockSequenceStart
  | blockMappingStart
  | blockEnd
  | flowSequenceStart
  | flowSequenceEnd
  | flowMappingStart
  | flowMappingEnd
  | key
  | value
  | blockEntry
  | flowEntry
  | alias (name : String)
  | anchor (name : String)
  | tag (handle : Option String) (suffix : String)
  | scalar (text : Text) (plain : Bool)

/-- Tokens, and the fault that comes after them if they do not reach the end of the text. -/
structure Tokens where
  items : List Token
  fault : Option Error

end SinkAudit.Yaml
