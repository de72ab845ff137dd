import SinkAudit.Text.Digit
import SinkAudit.Yaml.Cursor
import SinkAudit.Yaml.Token

/-!
# The texts of YAML scalars

Scalars are plain, quoted or blocks. In all of them line breaks fold: a single one becomes a space,
and of several the first is dropped. Blocks that begin with a bar keep them.

What the text of a scalar is does not depend on its tag: tags are resolved from the text afterwards.

- `plainText`: a plain scalar, which ends at a mark of structure or at a line that is not indented.
- `quotedText`: a scalar in single or double quotes; the latter have escapes.
- `blockText`: a block, indented by what its header or its first line says.

Repetitions take one from `fuel` each, and each takes a character from the text.
-/

namespace SinkAudit.Yaml

/-- Characters as text. -/
def textOf (cs : List Char) : Text := cs.map CodePoint.scalar

/-! ## Plain scalars -/

/-- The marks of flow collections. -/
def isFlowMark (c : Char) : Bool :=
  c == ',' || c == '[' || c == ']' || c == '\x7b' || c == '\x7d'

/-- The characters of a plain scalar up to the next blank or mark of structure. -/
def plainChunk (flow : Bool) : List Char → List Char
  | [] => []
  | c :: rest =>
    let keyEnds := rest.head?.all fun d => isSpaceOrTab d || isBreak d || (flow && isFlowMark d)
    if isSpaceOrTab c || isBreak c then []
    else if c == ':' && keyEnds then []
    else if flow && (isFlowMark c || c == '?') then []
    else c :: plainChunk flow rest

/-- The line breaks that come next, spaces around them dropped, up to a mark between documents:
nothing if there is one. -/
def plainBreaks : Nat → Cursor → Option Text × Cursor
  | 0, c => (some [], c)
  | fuel + 1, c =>
    let c := c.afterSpaces
    match c.takeBreak? with
    | none => (some [], c)
    | some (b, c) =>
      if c.isAtSeparator then (none, c)
      else
        let (breaks, c) := plainBreaks fuel c
        (breaks.map (.scalar b :: ·), c)

/-- A first line break and those after it, folded. -/
def fold (first : Char) (breaks : Text) : Text :=
  if first != '\n' then .scalar first :: breaks
  else if breaks.isEmpty then [.scalar ' ']
  else breaks

/-- What lies between two chunks of a plain scalar: nothing if the scalar ends, else its text. Also,
whether a line break was passed. -/
def plainSpaces (c : Cursor) : Option Text × Bool × Cursor :=
  let (spaces, c) := c.span (· == ' ')
  match c.takeBreak? with
  | none => (if spaces.isEmpty then none else some (textOf spaces), false, c)
  | some (b, c) =>
    if c.isAtSeparator then (none, true, c)
    else
      let (breaks, c) := plainBreaks c.rest.length c
      (breaks.map (fold b), true, c)

/-- A plain scalar from its next chunk on, after blanks that count only if a chunk follows: its text,
whether it ended after a line break, and the place after it. -/
def plainFrom (flow : Bool) (indent : Int) (spaces : Text) (broken : Bool) :
    Nat → Cursor → Text × Bool × Cursor
  | 0, c => ([], broken, c)
  | fuel + 1, c =>
    let chunk := if c.isAt '#' then [] else plainChunk flow c.rest
    if chunk.isEmpty then ([], broken, c)
    else
      let (between, broken, after) := plainSpaces (c.advance chunk.length)
      match between with
      | none => (spaces ++ textOf chunk, broken, after)
      | some between =>
        -- a comment, or less indentation, ends the scalar, and the blanks before are no part of it
        if after.isAt '#' || (!flow && (after.column : Int) < indent) then
          (spaces ++ textOf chunk, broken, after)
        else
          let (text, broken, after) := plainFrom flow indent between broken fuel after
          (spaces ++ textOf chunk ++ text, broken, after)

/-- A plain scalar, whose further lines are indented by at least `indent`. -/
def plainText (flow : Bool) (indent : Int) (c : Cursor) : Text × Bool × Cursor :=
  plainFrom flow indent [] false (c.rest.length + 1) c

/-! ## Quoted scalars -/

/-- The line breaks that come next in a quoted scalar, blanks around them dropped. -/
def quotedBreaks : Nat → Cursor → Except Error (Text × Cursor)
  | 0, _ => .error .malformed
  | fuel + 1, c =>
    if c.isAtSeparator then .error .malformed
    else
      let c := c.skip isSpaceOrTab
      match c.takeBreak? with
      | none => .ok ([], c)
      | some (b, c) => (quotedBreaks fuel c).map fun (t, c) => (.scalar b :: t, c)

/-- Blanks and line breaks inside a quoted scalar. -/
def quotedSpaces (c : Cursor) : Except Error (Text × Cursor) :=
  let (spaces, c) := c.span isSpaceOrTab
  match c.takeBreak? with
  | some (b, c) => (quotedBreaks (c.rest.length + 1) c).map fun (breaks, c) => (fold b breaks, c)
  | none => if c.peek.isNone then .error .malformed else .ok (textOf spaces, c)

/-- The character that an escape of one letter stands for. -/
def letterEscape? (c : Char) : Option Char :=
  [('0', '\x00'), ('a', '\x07'), ('b', '\x08'), ('t', '\t'), ('\t', '\t'), ('n', '\n'),
    ('v', '\x0b'), ('f', '\x0c'), ('r', '\r'), ('e', '\x1b'), (' ', ' '), ('"', '"'), ('\\', '\\'),
    ('/', '/'), ('N', '\x85'), ('_', '\xa0'), ('L', '\u2028'), ('P', '\u2029')].lookup c

/-- How many hexadecimal digits follow the letter of an escape. -/
def escapeWidth? (c : Char) : Option Nat := [('x', 2), ('u', 4), ('U', 8)].lookup c

/-- The code point of an escape with hexadecimal digits. -/
def hexEscape (width : Nat) (c : Cursor) : Except Error (CodePoint × Cursor) :=
  let digits := (c.rest.take width).filterMap Text.hexDigit?
  if digits.length < width then .error .malformed
  else
    let n := Text.numberOf 16 digits
    match CodePoint.ofNat? n with
    | some p => .ok (p, c.advance width)
    | none => .error (.codePoint n)

/-- What an escape stands for, from behind its backslash. -/
def escapeText (c : Cursor) : Except Error (Text × Cursor) :=
  match c.peek with
  | none => .error .malformed
  | some ch =>
    match letterEscape? ch, escapeWidth? ch, c.takeBreak? with
    | some e, _, _ => .ok ([.scalar e], c.forward)
    | none, some width, _ => (hexEscape width c.forward).map fun (p, c) => ([p], c)
    | none, none, some (_, c) => quotedBreaks (c.rest.length + 1) c
    | none, none, none => .error .malformed

/-- A quoted scalar from behind its first quote to behind its last one. -/
def quotedFrom (double : Bool) : Nat → Cursor → Except Error (Text × Cursor)
  | 0, _ => .error .malformed
  | fuel + 1, c =>
    match c.peek with
    | none => .error .malformed
    | some ch =>
      -- nothing is taken if the closing quote is reached
      let part : Except Error (Option (Text × Cursor)) :=
        if ch == '"' && double then .ok none
        else if ch == '\'' && !double then
          .ok (if c.peekAt 1 == some '\'' then some ([.scalar ch], c.advance 2) else none)
        else if isSpaceOrTab ch || isBreak ch then (quotedSpaces c).map some
        else if ch == '\\' && double then (escapeText c.forward).map some
        else .ok (some ([.scalar ch], c.forward))
      match part with
      | .error e => .error e
      | .ok none => .ok ([], c.forward)
      | .ok (some (text, c)) => (quotedFrom double fuel c).map fun (t, c) => (text ++ t, c)

/-- A quoted scalar, from its first quote on. -/
def quotedText (double : Bool) (c : Cursor) : Except Error (Text × Cursor) :=
  quotedFrom double (c.rest.length + 1) c.forward

/-! ## Blocks -/

/-- What becomes of the line breaks at the end of a block. -/
inductive Chomping where
  /-- One is kept. -/
  | clip
  /-- None is kept. -/
  | strip
  /-- All are kept. -/
  | keep
  deriving DecidableEq

/-- A sign for the line breaks at the end, if there is one. -/
def chompingSign? (c : Cursor) : Option Chomping :=
  if c.isAt '+' then some .keep else if c.isAt '-' then some .strip else none

/-- A digit for the indentation, if there is one. It is not zero. -/
def indentDigit? (c : Cursor) : Except Error (Option Nat) :=
  match c.peek.bind Text.asciiDigit? with
  | some 0 => .error .malformed
  | d => .ok d

/-- The header of a block, from behind its mark: a sign and a digit in either order. -/
def blockHeader (c : Cursor) : Except Error (Chomping × Option Nat × Cursor) := do
  match chompingSign? c with
  | some chomping =>
    let c := c.forward
    match ← indentDigit? c with
    | some d => return (chomping, some d, c.forward)
    | none => return (chomping, none, c)
  | none =>
    match ← indentDigit? c with
    | some d =>
      let c := c.forward
      match chompingSign? c with
      | some chomping => return (chomping, some d, c.forward)
      | none => return (.clip, some d, c)
    | none => return (.clip, none, c)

/-- The rest of a line that may hold nothing but a comment. -/
def emptyRest (c : Cursor) : Except Error Cursor :=
  let c := c.afterSpaces.afterComment
  if endsLine c.peek then .ok c.afterBreak else .error .malformed

/-- The empty lines before the first line of a block, and the deepest indentation seen. -/
def blockIndentation (deepest : Nat) : Nat → Cursor → Text × Nat × Cursor
  | 0, c => ([], deepest, c)
  | fuel + 1, c =>
    let c := c.afterSpaces
    let deepest := max deepest c.column
    match c.takeBreak? with
    | none => ([], deepest, c)
    | some (b, c) =>
      let (breaks, deepest, c) := blockIndentation deepest fuel c
      (.scalar b :: breaks, deepest, c)

/-- Past spaces, up to a column. -/
def upToColumn (indent : Nat) (c : Cursor) : Cursor :=
  c.advance (min (c.rest.takeWhile (· == ' ')).length (indent - c.column))

/-- The empty lines that come next in a block, and the start of the line after them. -/
def blockBreaks (indent : Nat) : Nat → Cursor → Text × Cursor
  | 0, c => ([], c)
  | fuel + 1, c =>
    let c := upToColumn indent c
    match c.takeBreak? with
    | none => ([], c)
    | some (b, c) =>
      let (breaks, c) := blockBreaks indent fuel c
      (.scalar b :: breaks, c)

/-- Does a line of the block come next? -/
def inBlock (indent : Nat) (c : Cursor) : Bool := c.column == indent && c.peek.isSome

/-- The end of a block, from its last line break and the empty lines after it. -/
def Chomping.apply (chomping : Chomping) (last breaks : Text) : Text :=
  match chomping with
  | .clip => last
  | .strip => []
  | .keep => last ++ breaks

/-- The lines of a block, after empty lines. -/
def blockLines (folded : Bool) (chomping : Chomping) (indent : Nat) (breaks : Text) :
    Nat → Cursor → Text × Cursor
  | 0, c => (breaks, c)
  | fuel + 1, c =>
    let startsBlank (c : Cursor) : Bool := c.peek.any isSpaceOrTab
    let (line, after) := c.span (!isBreak ·)
    let (last, after) : Text × Cursor := match after.takeBreak? with
      | some (b, after) => ([.scalar b], after)
      | none => ([], after)
    let (empty, after) := blockBreaks indent (after.rest.length + 1) after
    if inBlock indent after then
      -- folding joins two lines by a blank, unless one starts with a blank or empty lines stand between
      let joint : Text :=
        if folded && last == [.scalar '\n'] && !startsBlank c && !startsBlank after then
          if empty.isEmpty then [.scalar ' '] else []
        else last
      let (text, after) := blockLines folded chomping indent empty fuel after
      (breaks ++ textOf line ++ joint ++ text, after)
    else (breaks ++ textOf line ++ chomping.apply last empty, after)

/-- A block inside a collection that is indented by `indent`, from its mark on. -/
def blockText (folded : Bool) (indent : Int) (c : Cursor) : Except Error (Text × Cursor) := do
  let (chomping, digit, c) ← blockHeader c.forward
  unless endsWord c.peek do .error .malformed
  let c ← emptyRest c
  -- the indentation is given by a digit, or else by the lines up to the first one with text
  let least := max 1 (indent + 1).toNat
  let (breaks, column, c) : Text × Nat × Cursor := match digit with
    | some d =>
      let column := least + d - 1
      let (breaks, c) := blockBreaks column (c.rest.length + 1) c
      (breaks, column, c)
    | none =>
      let (breaks, deepest, c) := blockIndentation 0 (c.rest.length + 1) c
      (breaks, max least deepest, c)
  if inBlock column c then return blockLines folded chomping column breaks (c.rest.length + 1) c
  else return (chomping.apply [] breaks, c)

end SinkAudit.Yaml
