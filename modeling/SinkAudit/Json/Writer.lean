import SinkAudit.Text.Digit

/-!
# Writing JSON

What `json.dumps` with an indent of two makes of the report and of a snapshot. Both hold texts, flags,
lists and objects only, so a written document is a tree of these (`Tree`) and not a `Value`: there is no
number to be written, and no key that is not a text.

- `Tree`: the documents that are written.
- `quoted`: a string in quotes, in ASCII; a character beyond that is escaped by its UTF-16 units, and so
  is U+007F. The text of a document therefore has no line feed but those between its entries.
- `bracketed`: what lists and objects have in common. An empty one is two brackets on one line.
- `Tree.write`: a document with every entry on a line of its own, two blanks further in at each level.
-/

namespace SinkAudit.Json

/-- A document to be written. -/
inductive Tree where
  | flag (b : Bool)
  | text (s : String)
  | list (items : List Tree)
  | object (entries : List (String × Tree))

/-- The UTF-16 units of a character. -/
def units (c : Char) : List Nat :=
  let n := c.toNat
  if n < 0x10000 then [n] else [0xD800 + (n - 0x10000) / 0x400, 0xDC00 + (n - 0x10000) % 0x400]

/-- The escape of a UTF-16 unit. -/
def unitEscape (n : Nat) : List Char := '\\' :: 'u' :: Text.digitsOf 16 4 n

/-- A character inside quotes. -/
def quotedChar (c : Char) : List Char :=
  if c = '"' ∨ c = '\\' then ['\\', c]
  else if c = '\n' then ['\\', 'n']
  else if c = '\r' then ['\\', 'r']
  else if c = '\t' then ['\\', 't']
  else if c = '\x08' then ['\\', 'b']
  else if c = '\x0c' then ['\\', 'f']
  else if 0x20 ≤ c.toNat ∧ c.toNat < 0x7F then [c]
  else (units c).flatMap unitEscape

/-- A string in quotes. -/
def quoted (s : String) : List Char := '"' :: s.toList.flatMap quotedChar ++ ['"']

/-- A new line at a level. -/
def newLine (level : Nat) : List Char := '\n' :: List.replicate (2 * level) ' '

/-- Written entries between brackets, each on a line at the level inside. -/
def bracketed (left right : Char) (level : Nat) (entries : List (List Char)) : List Char :=
  if entries.isEmpty then [left, right]
  else left :: newLine (level + 1)
    ++ List.intercalate (',' :: newLine (level + 1)) entries ++ newLine level ++ [right]

namespace Tree

mutual

/-- A document at a level. -/
def writeAt (level : Nat) : Tree → List Char
  | flag b => (if b then "true" else "false").toList
  | text s => quoted s
  | list items => bracketed '[' ']' level (writeItems (level + 1) items)
  | object entries => bracketed '\x7b' '\x7d' level (writeEntries (level + 1) entries)

/-- The items of a list. -/
def writeItems (level : Nat) : List Tree → List (List Char)
  | [] => []
  | t :: rest => t.writeAt level :: writeItems level rest

/-- The entries of an object. -/
def writeEntries (level : Nat) : List (String × Tree) → List (List Char)
  | [] => []
  | (k, t) :: rest => (quoted k ++ ':' :: ' ' :: t.writeAt level) :: writeEntries level rest

end

/-- A written document. -/
def write (t : Tree) : String := String.ofList (t.writeAt 0)

end Tree

end SinkAudit.Json
