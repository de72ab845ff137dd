import SinkAudit.Number.Reading
import SinkAudit.Text.Utf8
import SinkAudit.Yaml.ScalarText

/-!
# From YAML text to tokens

Indentation opens and closes block collections. A token that may turn out to be a key on one line is
remembered at its place (`PendingKey`); when a colon follows, the mark of a key is put there after the
fact. Because of that a token is certain only when no key may still be put before it, and a fault is
reported only after the tokens that are certain.

- `Lexer`: the tokens so far, latest first, and what decides about the next one.
- `Lexer.step`: the tokens at the next place, until the text ends.
- `Lexer.settled`: how many tokens are certain, those before the first that may still become a key. A
  fault comes right after them.
- `Tokens.ofChars`: all tokens of a text. Each step takes a character from it, which bounds their
  number.
-/

namespace SinkAudit.Yaml

/-- A token that may be a key. -/
structure PendingKey where
  /-- How many tokens stand before it. -/
  tokensBefore : Nat
  /-- No other token can stand at its place. -/
  required : Bool
  index : Nat
  line : Nat
  column : Nat

/-- The state between two tokens. -/
structure Lexer where
  cursor : Cursor
  /-- The tokens so far, latest first. -/
  emitted : List Token
  /-- The column of the innermost block collection; -1 outside of all. -/
  indent : Int
  /-- The columns of the block collections around it. -/
  indents : List Int
  /-- What may be a key inside of each flow collection, innermost first, and outside of all. -/
  keys : List (Option PendingKey)
  /-- May the next token be a key? -/
  keyAllowed : Bool

namespace Lexer

/-- The state at the start of a text. -/
def start (cs : List Char) : Lexer := ⟨.start cs, [], -1, [], [none], true⟩

/-- Inside a flow collection, indentation has no meaning. -/
def inFlow (s : Lexer) : Bool := s.keys.length > 1

/-- Emit a token. -/
def emit (s : Lexer) (t : Token) : Lexer := { s with emitted := t :: s.emitted }

/-- Emit a token and move on. -/
def emitAt (s : Lexer) (t : Token) (c : Cursor) : Lexer :=
  { s with emitted := t :: s.emitted, cursor := c }

/-- Insert a token behind the first `n` ones. -/
def insertAfter (s : Lexer) (n : Nat) (t : Token) : Lexer :=
  let later := s.emitted.length - n
  { s with emitted := s.emitted.take later ++ t :: s.emitted.drop later }

/-- May the next token be a key or not? -/
def allowKey (s : Lexer) (allowed : Bool) : Lexer := { s with keyAllowed := allowed }

/-- Replace what may be a key here. -/
def setKey (s : Lexer) (k : Option PendingKey) : Lexer := { s with keys := k :: s.keys.drop 1 }

/-- Nothing is left to become a key here; a token that had to become one is a fault. -/
def dropKey (s : Lexer) : Except Error Lexer :=
  if (s.keys.head?.join).any (·.required) then .error .malformed else .ok (s.setKey none)

/-- The next token may be a key, if one is allowed here. -/
def saveKey (s : Lexer) : Except Error Lexer := do
  if s.keyAllowed then
    let s ← s.dropKey
    let c := s.cursor
    let required := !s.inFlow && s.indent == (c.column : Int)
    return s.setKey (some ⟨s.emitted.length, required, c.index, c.line, c.column⟩)
  else return s

/-- A key ends on the line on which it begins, after at most 1024 characters. -/
def isStale (c : Cursor) (k : PendingKey) : Bool := k.line != c.line || c.index - k.index > 1024

/-- Tokens that can no longer be keys are forgotten. -/
def dropStaleKeys (s : Lexer) : Except Error Lexer :=
  if s.keys.any fun k => k.any fun k => isStale s.cursor k && k.required then .error .malformed
  else .ok { s with keys := s.keys.map (·.filter fun k => !isStale s.cursor k) }

/-- Close the block collections that are indented deeper than a column. -/
def unwindFrom (column : Int) (s : Lexer) : List Int → Lexer
  | [] => s
  | outer :: rest =>
    if column < s.indent then
      unwindFrom column { s with emitted := .blockEnd :: s.emitted, indent := outer, indents := rest }
        rest
    else s

/-- Close the block collections that are indented deeper than a column, outside of flow. -/
def unwind (s : Lexer) (column : Int) : Lexer :=
  if s.inFlow then s else unwindFrom column s s.indents

/-- Open a block collection at a column, if it is deeper than the innermost one. -/
def indentTo (s : Lexer) (column : Nat) : Option Lexer :=
  if s.indent < (column : Int) then
    some { s with indents := s.indent :: s.indents, indent := column }
  else none

/-- Past blanks and comments. A new line allows keys outside of flow. -/
def toNextToken (s : Lexer) : Nat → Lexer
  | 0 => s
  | fuel + 1 =>
    let c := s.cursor.afterSpaces.afterComment
    match c.takeBreak? with
    | none => { s with cursor := c }
    | some (_, c) =>
      toNextToken { s with cursor := c, keyAllowed := s.keyAllowed || !s.inFlow } fuel

/-! ## Directives, names and tags -/

/-- A name of letters, digits and marks, not empty. -/
def takeName (c : Cursor) : Except Error (String × Cursor) :=
  match c.span isWordChar with
  | ([], _) => .error .malformed
  | (name, c) => .ok (String.ofList name, c)

/-- A row of digits, not too long for an integer. -/
def takeNumber (c : Cursor) : Except Error (Nat × Cursor) :=
  match c.span Char.isDigit with
  | ([], _) => .error .malformed
  | (digits, c) =>
    if digits.length > Number.digitLimit then .error (.longInteger digits.length)
    else .ok (Text.numberOf 10 (digits.filterMap Text.asciiDigit?), c)

/-- The handle of a tag: an exclamation mark, or a name between two. -/
def takeHandle (c : Cursor) : Except Error (String × Cursor) :=
  if !c.isAt '!' then .error .malformed
  else
    let (name, after) := c.forward.span isWordChar
    if after.isAt '!' then .ok ("!" ++ String.ofList name ++ "!", after.forward)
    else if name.isEmpty then
      if c.forward.isAt ' ' then .ok ("!", c.forward) else .error .malformed
    else .error .malformed

/-- The characters that stand for themselves in the rest of a tag. -/
def isUriChar (c : Char) : Bool := c.isAlphanum || "-;/?:@&=+$,_.!~*'()[]".toList.contains c

/-- The bytes of a row of percent escapes. -/
def uriEscapes : Nat → Cursor → Except Error (List UInt8 × Cursor)
  | 0, _ => .error .malformed
  | fuel + 1, c =>
    if c.isAt '%' then
      match (c.forward.rest.take 2).map Text.hexDigit? with
      | [some a, some b] =>
        (uriEscapes fuel (c.advance 3)).map fun (bs, c) => (UInt8.ofNat (a * 16 + b) :: bs, c)
      | _ => .error .malformed
    else .ok ([], c)

/-- The rest of a tag from its next part on. -/
def uriParts : Nat → Cursor → Except Error (List Char × Cursor)
  | 0, _ => .error .malformed
  | fuel + 1, c => do
    if c.isAt '%' then
      let (bytes, c) ← uriEscapes (c.rest.length + 1) c
      match Utf8.decode bytes with
      | .ok cs =>
        let (more, c) ← uriParts fuel c
        return (cs ++ more, c)
      | .error _ => .error .malformed
    else
      match c.span isUriChar with
      | ([], c) => return ([], c)
      | (cs, c) =>
        let (more, c) ← uriParts fuel c
        return (cs ++ more, c)

/-- The rest of a tag, which is not empty. -/
def takeUri (c : Cursor) : Except Error (String × Cursor) := do
  let (cs, after) ← uriParts (c.rest.length + 1) c
  if after.index == c.index then .error .malformed else return (String.ofList cs, after)

/-- The value of a version directive. -/
def takeVersion (c : Cursor) : Except Error (Directive × Cursor) := do
  let (major, c) ← takeNumber c.afterSpaces
  unless c.isAt '.' do .error .malformed
  let (_, c) ← takeNumber c.forward
  unless endsWord c.peek do .error .malformed
  return (.version major, c)

/-- The value of a directive that defines a handle. -/
def takeHandleBase (c : Cursor) : Except Error (Directive × Cursor) := do
  let (name, c) ← takeHandle c.afterSpaces
  unless c.isAt ' ' do .error .malformed
  let (base, c) ← takeUri c.afterSpaces
  unless endsWord c.peek do .error .malformed
  return (.handle name base, c)

/-- A directive, from its percent sign on. -/
def takeDirective (c : Cursor) : Except Error (Directive × Cursor) := do
  let (name, c) ← takeName c.forward
  unless endsWord c.peek do .error .malformed
  let (directive, c) ←
    if name = "YAML" then takeVersion c
    else if name = "TAG" then takeHandleBase c
    else pure (.other, c.skip (!isBreak ·))
  return (directive, ← emptyRest c)

/-- The characters besides blanks that may follow the name of an alias or anchor. -/
def endsReference (c : Char) : Bool :=
  "?:,]%@".toList.contains c || c == '\x7d' || c.toNat == 0x60

/-- The name of an alias or anchor, from its mark on. -/
def takeReference (c : Cursor) : Except Error (String × Cursor) := do
  let (name, c) ← takeName c.forward
  if endsToken c.peek || c.peek.any endsReference then return (name, c) else .error .malformed

/-- Does an exclamation mark come up before the word ends? -/
def hasHandle (c : Cursor) : Bool :=
  (c.rest.takeWhile fun d => !(d == ' ' || isBreak d)).contains '!'

/-- A tag, from its exclamation mark on. -/
def takeTag (c : Cursor) : Except Error (Token × Cursor) := do
  let (handle, suffix, c) ←
    -- a tag is verbatim, or a lone mark, or a handle with a suffix
    if c.peekAt 1 == some '<' then do
      let (uri, c) ← takeUri (c.advance 2)
      unless c.isAt '>' do .error .malformed
      pure (none, uri, c.forward)
    else if endsToken (c.peekAt 1) then pure (none, "!", c.forward)
    else do
      let (handle, c) ← if hasHandle c.forward then takeHandle c else pure ("!", c.forward)
      let (uri, c) ← takeUri c
      pure (some handle, uri, c)
  unless endsWord c.peek do .error .malformed
  return (.tag handle suffix, c)

/-! ## Tokens -/

/-- A mark between documents. -/
def documentMark (s : Lexer) (t : Token) : Except Error Lexer := do
  let s ← (s.unwind (-1)).dropKey
  return (s.allowKey false).emitAt t (s.cursor.advance 3)

/-- The start of a flow collection. -/
def flowStart (s : Lexer) (t : Token) : Except Error Lexer := do
  let s ← s.saveKey
  return { s.emitAt t s.cursor.forward with keys := none :: s.keys, keyAllowed := true }

/-- The end of a flow collection. -/
def flowEnd (s : Lexer) (t : Token) : Except Error Lexer := do
  let s ← s.dropKey
  if s.inFlow then
    return { s.emitAt t s.cursor.forward with keys := s.keys.drop 1, keyAllowed := false }
  else .error .malformed

/-- A comma. -/
def flowEntry (s : Lexer) : Except Error Lexer := do
  let s ← (s.allowKey true).dropKey
  return s.emitAt .flowEntry s.cursor.forward

/-- Open a block collection here, if this place is deeper than the innermost one. -/
def openBlock (s : Lexer) (t : Token) : Lexer :=
  match s.indentTo s.cursor.column with
  | some s => s.emit t
  | none => s

/-- A mark of a block entry or key that stands where a key may. -/
def blockMark (s : Lexer) (opening t : Token) (allowNext : Bool) : Except Error Lexer := do
  let s ←
    if s.inFlow then pure s
    else if s.keyAllowed then pure (s.openBlock opening)
    else .error .malformed
  let s ← (s.allowKey allowNext).dropKey
  return s.emitAt t s.cursor.forward

/-- A colon after what may be a key makes it one. -/
def valueAfter (s : Lexer) (k : PendingKey) : Lexer :=
  let s := (s.setKey none).insertAfter k.tokensBefore .key
  let s := if s.inFlow then s else
    match s.indentTo k.column with
    | some s => s.insertAfter k.tokensBefore .blockMappingStart
    | none => s
  (s.allowKey false).emitAt .value s.cursor.forward

/-- A colon. -/
def value (s : Lexer) : Except Error Lexer :=
  match s.keys.head?.join with
  | some k => .ok (s.valueAfter k)
  | none => s.blockMark .blockMappingStart .value (!s.inFlow)

/-- A token that may be a key. -/
def content (s : Lexer) (take : Cursor → Except Error (Token × Cursor)) : Except Error Lexer := do
  let s ← s.saveKey
  let (t, c) ← take s.cursor
  return (s.allowKey false).emitAt t c

/-- A plain scalar. A key may follow it on a new line. -/
def plain (s : Lexer) : Except Error Lexer := do
  let s ← s.saveKey
  let (text, broken, c) := plainText s.inFlow (s.indent + 1) s.cursor
  return (s.allowKey broken).emitAt (.scalar text true) c

/-- A block scalar. -/
def block (s : Lexer) (folded : Bool) : Except Error Lexer := do
  let s ← (s.allowKey true).dropKey
  let (text, c) ← blockText folded s.indent s.cursor
  return s.emitAt (.scalar text false) c

/-- Characters that begin no plain scalar, unless what follows says otherwise. -/
def isIndicator (c : Char) : Bool :=
  "-?:,[]#&*!|>'\"%@".toList.contains c || c == '\x7b' || c == '\x7d' || c.toNat == 0x60

/-- Does a plain scalar begin here? -/
def startsPlain (s : Lexer) (ch : Char) : Bool :=
  !(isIndicator ch || isSpaceOrTab ch || isBreak ch)
    || (!endsToken (s.cursor.peekAt 1) && (ch == '-' || (!s.inFlow && (ch == '?' || ch == ':'))))

/-- The tokens at a place where a character stands. -/
def tokenAt (s : Lexer) (ch : Char) : Except Error Lexer :=
  let c := s.cursor
  -- the order of the cases matters: a mark that means nothing here may still begin a plain scalar
  let marks := endsToken (c.peekAt 1)
  if ch == '%' && c.column == 0 then do
    let s ← (s.unwind (-1)).dropKey
    let (d, c) ← takeDirective s.cursor
    return (s.allowKey false).emitAt (.directive d) c
  else if c.column == 0 && c.isAtMark '-' then s.documentMark .documentStart
  else if c.column == 0 && c.isAtMark '.' then s.documentMark .documentEnd
  else if ch == '[' then s.flowStart .flowSequenceStart
  else if ch == '\x7b' then s.flowStart .flowMappingStart
  else if ch == ']' then s.flowEnd .flowSequenceEnd
  else if ch == '\x7d' then s.flowEnd .flowMappingEnd
  else if ch == ',' then s.flowEntry
  else if ch == '-' && marks then s.blockMark .blockSequenceStart .blockEntry true
  else if ch == '?' && (s.inFlow || marks) then
    s.blockMark .blockMappingStart .key (!s.inFlow)
  else if ch == ':' && (s.inFlow || marks) then s.value
  else if ch == '*' then
    s.content fun c => (takeReference c).map fun (name, c) => (.alias name, c)
  else if ch == '&' then
    s.content fun c => (takeReference c).map fun (name, c) => (.anchor name, c)
  else if ch == '!' then s.content takeTag
  else if ch == '|' && !s.inFlow then s.block false
  else if ch == '>' && !s.inFlow then s.block true
  else if ch == '\'' then
    s.content fun c => (quotedText false c).map fun (t, c) => (.scalar t false, c)
  else if ch == '"' then
    s.content fun c => (quotedText true c).map fun (t, c) => (.scalar t false, c)
  else if s.startsPlain ch then s.plain
  else .error .malformed

/-- The tokens at the next place, and whether the text ended there. -/
def step (s : Lexer) : Except Error (Lexer × Bool) := do
  let s := s.toNextToken (s.cursor.rest.length + 1)
  let s ← s.dropStaleKeys
  let s := s.unwind s.cursor.column
  match s.cursor.peek with
  | none =>
    let s ← (s.unwind (-1)).dropKey
    return (s, true)
  | some ch => return (← s.tokenAt ch, false)

/-- How many tokens are certain: those before the first that may still become a key. -/
def settled (s : Lexer) : Nat :=
  (s.keys.filterMap (·.map PendingKey.tokensBefore)).foldl min s.emitted.length

/-- The first `n` tokens so far, and a fault. -/
def faultAfter (s : Lexer) (n : Nat) (e : Error) : Tokens := ⟨s.emitted.reverse.take n, some e⟩

/-- All tokens of a text whose lexer has come to a state; `known` of them were settled before the last
step. A key that this step left behind is a fault right after those, and a fault of the next step
comes after the tokens that are settled by then. -/
def run (known : Nat) : Nat → Lexer → Tokens
  | 0, s => s.faultAfter known .malformed
  | fuel + 1, s => match s.dropStaleKeys with
    | .error e => s.faultAfter known e
    | .ok s => match s.step with
      | .error e => s.faultAfter s.settled e
      | .ok (s', true) => ⟨s'.emitted.reverse, none⟩
      | .ok (s', false) => run s.settled fuel s'

end Lexer

/-- The characters that a text may hold. -/
def isAllowed (c : Char) : Bool :=
  let n := c.toNat
  n == 9 || n == 10 || n == 13 || (0x20 ≤ n && n ≤ 0x7E) || n == 0x85 || (0xA0 ≤ n && n ≤ 0xD7FF)
    || (0xE000 ≤ n && n ≤ 0xFFFD) || 0x10000 ≤ n

/-- The tokens of a text. A byte order mark may stand first. -/
def Tokens.ofChars (cs : List Char) : Tokens :=
  if !cs.all isAllowed then ⟨[], some .malformed⟩
  else
    let s := Lexer.start cs
    let s := if s.cursor.isAt '\ufeff' then { s with cursor := s.cursor.forward } else s
    s.run 0 (cs.length + 1)

end SinkAudit.Yaml
