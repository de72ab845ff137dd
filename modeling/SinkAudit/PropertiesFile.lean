import SinkAudit.OrderedMap
import SinkAudit.Text.Basic
import SinkAudit.Text.Digit

/-!
# Property files

Lines of keys and values in the syntax of `java.util.Properties` (`parse_properties`). The syntax is
read in stages, each of which undoes one thing that writing such a file does: lines end in three ways, are
continued on the next, hold comments, are parted into key and value by the first separator that is not
escaped, and spell characters as escapes. Each stage is a function of its own, so that the results about
written files can be put together stage by stage. Every text is a file in this syntax unless it misspells an
escape of a code point.

- `splitLines`: the natural lines of a text; a line feed, a carriage return or both end one.
- `logicalLines`: lines without the blanks before them, comments dropped, and a line that ends in an
  unescaped backslash joined with the next.
- `splitEntry`: key and value, parted by the first unescaped `=`, `:` or blank.
- `unescape`: what a key or value spells. Surrogate halves that meet are joined.
- `parse`: all entries; a key that comes again changes the value of the first.
-/

namespace SinkAudit.PropertiesFile

/-- A `\u` that is not followed by four hexadecimal digits, with the characters after it. -/
structure EscapeError where
  shown : List Char
  deriving DecidableEq

/-- The text of the error. -/
def EscapeError.message (e : EscapeError) : String :=
  "Invalid \\u escape sequence: \\u" ++ String.ofList e.shown

/-- The blanks of the syntax. -/
def isBlank (c : Char) : Bool := c == ' ' || c == '\t' || c == '\x0c'

/-- The natural lines of a text, without what ends them: the first step of `parse_properties`. -/
def splitLines : List Char → List (List Char)
  | [] => [[]]
  | '\n' :: rest => [] :: splitLines rest
  | '\r' :: '\n' :: rest => [] :: splitLines rest
  | '\r' :: rest => [] :: splitLines rest
  | c :: rest => match splitLines rest with
    | line :: lines => (c :: line) :: lines
    | [] => [[c]]

/-- Does the line end in a backslash that is not escaped? Then the next natural line belongs to it. -/
def isContinued (line : List Char) : Bool :=
  (line.reverse.takeWhile (· == '\\')).length % 2 == 1

/-- Does a line without leading blanks hold no entry? It is empty then, or a comment. -/
def isSilent : List Char → Bool
  | [] => true
  | c :: _ => c == '#' || c == '!'

/-- The logical lines that natural lines make up, the first of them continuing `pending` if there is
one. -/
def logicalLines (pending : Option (List Char)) : List (List Char) → List (List Char)
  | [] => pending.toList
  | natural :: rest =>
    let body := natural.dropWhile isBlank
    match pending with
    | none =>
      if isSilent body then logicalLines none rest
      else if isContinued body then logicalLines (some body.dropLast) rest
      else body :: logicalLines none rest
    | some before =>
      -- a line that continues another is never a comment, and may be blank
      let line := before ++ body
      if isContinued line then logicalLines (some line.dropLast) rest
      else line :: logicalLines none rest

/-- What stands before the first unescaped separator, and the rest from the separator on. -/
def splitKey : List Char → List Char × List Char
  | [] => ([], [])
  | '\\' :: c :: rest =>
    let (key, after) := splitKey rest
    ('\\' :: c :: key, after)
  | c :: rest =>
    if isBlank c || c == '=' || c == ':' then ([], c :: rest)
    else
      let (key, after) := splitKey rest
      (c :: key, after)

/-- A separator is taken off: blanks, at most one `=` or `:`, and blanks. -/
def dropSeparator (cs : List Char) : List Char :=
  match cs.dropWhile isBlank with
  | c :: rest => if c == '=' || c == ':' then rest.dropWhile isBlank else c :: rest
  | [] => []

/-- Key and value of a logical line, still escaped. -/
def splitEntry (line : List Char) : List Char × List Char :=
  let (key, rest) := splitKey line
  (key, dropSeparator rest)

/-- The character that a backslash before a letter stands for. -/
def escaped (c : Char) : Char :=
  if c = 't' then '\t' else if c = 'n' then '\n' else if c = 'f' then '\x0c'
  else if c = 'r' then '\r' else c

/-- The code point of four hexadecimal digits. -/
def fourDigits? (a b c d : Char) : Option CodePoint :=
  match Text.hexDigit? a, Text.hexDigit? b, Text.hexDigit? c, Text.hexDigit? d with
  | some a, some b, some c, some d => CodePoint.ofNat? (Text.numberOf 16 [a, b, c, d])
  | _, _, _, _ => none

/-- Resolve escapes, leaving surrogate halves apart. A backslash before any other letter is dropped, and one
at the very end stays. -/
def unescapeUnits : List Char → Except EscapeError Text
  | [] => .ok []
  -- four digits have to follow at once; an error shows what follows instead
  | '\\' :: 'u' :: a :: b :: c :: d :: rest => match fourDigits? a b c d with
    | some p => (unescapeUnits rest).map (p :: ·)
    | none => .error ⟨[a, b, c, d]⟩
  | '\\' :: 'u' :: rest => .error ⟨rest⟩
  | '\\' :: c :: rest => (unescapeUnits rest).map (.scalar (escaped c) :: ·)
  | c :: rest => (unescapeUnits rest).map (.scalar c :: ·)

/-- What a key or a value spells: its escapes resolved, and then the halves of surrogate pairs joined. -/
def unescape (cs : List Char) : Except EscapeError Text := (unescapeUnits cs).map Text.joinPairs

/-- The entry of a logical line. -/
def readEntry (line : List Char) : Except EscapeError (Text × Text) := do
  let (key, value) := splitEntry line
  return (← unescape key, ← unescape value)

/-- The entries of a text (`parse_properties`). A key that comes again changes the value of the first. -/
def parse (cs : List Char) : Except EscapeError (OrderedMap Text Text) := do
  let lines := (logicalLines none (splitLines cs)).filter (!·.isEmpty)
  return .ofList (← lines.mapM readEntry)

end SinkAudit.PropertiesFile
