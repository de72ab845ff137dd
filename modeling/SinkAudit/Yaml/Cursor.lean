/-!
# Places in a YAML text

Where a token may stand depends on its line and column, and whether it may be a key on its index as
well: a key on one line is at most 1024 characters long. A cursor therefore counts all three. It is moved
by whole characters only, so that the counts cannot fall behind the characters that remain.

- `Cursor`: the characters that remain, with their index, line and column.
- `forward`, `advance`: past one character, and past several.
- `takeBreak?`: past a line break. All breaks read as a line feed, but for the two Unicode separators.
- `Cursor.afterSpaces`, `afterComment`: past spaces, and past a comment.
-/

namespace SinkAudit.Yaml

/-- A place in a text. -/
structure Cursor where
  rest : List Char
  index : Nat
  line : Nat
  column : Nat

/-- Does the character break a line? -/
def isBreak (c : Char) : Bool :=
  c == '\n' || c == '\r' || c == '\x85' || c == '\u2028' || c == '\u2029'

/-- A blank inside a line. -/
def isSpaceOrTab (c : Char) : Bool := c == ' ' || c == '\t'

/-- The end of the text or of a line. -/
def endsLine (c : Option Char) : Bool := c.all isBreak

/-- The end of the text or of a line, or a space. -/
def endsWord (c : Option Char) : Bool := c.all fun c => c == ' ' || isBreak c

/-- The end of the text or of a line, a space or a tab. -/
def endsToken (c : Option Char) : Bool := c.all fun c => isSpaceOrTab c || isBreak c

/-- An ASCII letter or digit, or a mark that names may hold. -/
def isWordChar (c : Char) : Bool := c.isAlphanum || c == '-' || c == '_'

namespace Cursor

/-- The start of a text. -/
def start (cs : List Char) : Cursor := ⟨cs, 0, 0, 0⟩

/-- The next character. -/
def peek (c : Cursor) : Option Char := c.rest.head?

/-- The character `k` places on. -/
def peekAt (c : Cursor) (k : Nat) : Option Char := c.rest[k]?

/-- Is the next character this one? -/
def isAt (c : Cursor) (ch : Char) : Bool := c.peek == some ch

/-- Past one character. A carriage return before a line feed ends no line, and a byte order mark
takes no column. -/
def forward (c : Cursor) : Cursor :=
  match c.rest with
  | [] => c
  | ch :: rest =>
    if isBreak ch && !(ch == '\r' && rest.head? == some '\n') then
      ⟨rest, c.index + 1, c.line + 1, 0⟩
    else if ch == '\ufeff' then ⟨rest, c.index + 1, c.line, c.column⟩
    else ⟨rest, c.index + 1, c.line, c.column + 1⟩

/-- Past several characters. -/
def advance (c : Cursor) : Nat → Cursor
  | 0 => c
  | n + 1 => c.forward.advance n

/-- The characters of a class that come next, and the place after them. -/
def span (c : Cursor) (p : Char → Bool) : List Char × Cursor :=
  let taken := c.rest.takeWhile p
  (taken, c.advance taken.length)

/-- Past the characters of a class. -/
def skip (c : Cursor) (p : Char → Bool) : Cursor := (c.span p).2

/-- Past spaces. -/
def afterSpaces (c : Cursor) : Cursor := c.skip (· == ' ')

/-- Past a comment, if there is one. -/
def afterComment (c : Cursor) : Cursor :=
  if c.isAt '#' then c.skip (!isBreak ·) else c

/-- Past a line break, with what it reads as. -/
def takeBreak? (c : Cursor) : Option (Char × Cursor) :=
  match c.rest with
  | '\r' :: '\n' :: _ => some ('\n', c.advance 2)
  | ch :: _ =>
    if ch == '\u2028' || ch == '\u2029' then some (ch, c.forward)
    else if isBreak ch then some ('\n', c.forward)
    else none
  | [] => none

/-- Past a line break, if there is one. -/
def afterBreak (c : Cursor) : Cursor := ((c.takeBreak?).map Prod.snd).getD c

/-- Does a mark of three characters, standing alone, come next? -/
def isAtMark (c : Cursor) (mark : Char) : Bool :=
  c.rest.take 3 == [mark, mark, mark] && endsToken (c.peekAt 3)

/-- Does a mark between documents come next? -/
def isAtSeparator (c : Cursor) : Bool := c.isAtMark '-' || c.isAtMark '.'

end Cursor

end SinkAudit.Yaml
