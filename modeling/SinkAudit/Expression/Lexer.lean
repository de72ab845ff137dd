import SinkAudit.Expression.Token
import SinkAudit.Text.Blank
import SinkAudit.Text.Letter

/-!
# Cutting expressions into tokens

Brackets are matched here, and texts have to end. A line ends with a token of its own unless a bracket is
open; comments and empty lines leave nothing behind.

- `takeNumber`: a number and what follows it.
- `takeBody`: what a text holds, and what follows it.
- `Lexer.step`: the token that a character begins.
- `scan`: the tokens of a text.
-/

namespace SinkAudit.Expression

open Text

/-! ## Numbers -/

/-- What follows digits, given what follows one of them. A single underscore may stand between two
digits; the character after any other one is the error. -/
def afterDigits (digit : Char → Bool) : List Char → Except (Option Char) (List Char)
  | '_' :: c :: rest => if digit c then afterDigits digit rest else .error (some c)
  | ['_'] => .error none
  | c :: rest => if digit c then afterDigits digit rest else .ok (c :: rest)
  | [] => .ok []

/-- May the character stand in a word? Beyond ASCII, words are looked at once they are complete. -/
def isWordChar (c : Char) : Bool := c.isAlphanum || c == '_' || 0x80 ≤ c.toNat

/-- Does a text begin with an operator that is a word and may stand right behind a number? Those of two
letters are not looked at any further. -/
def startsWithOperator (cs : List Char) : Bool :=
  let begins (word : String) : Bool := word.toList.isPrefixOf cs
  ["if", "in", "is"].any begins
    || ["and", "else", "for", "not", "or"].any fun word =>
      begins word && !(cs.drop word.length).head?.any isWordChar

/-- What follows a number of some form. No ASCII letter may stand right behind it, unless it begins an
operator. -/
def endNumber (form : NumberForm) (rest : List Char) : Except Fault (List Char) :=
  if rest.head?.any (fun c => c.isAlphanum || c == '_') && !startsWithOperator rest
  then .error (.badNumber form) else .ok rest

/-- What follows the digits of a number whose base is marked, given what follows the mark. -/
def afterBase (form : NumberForm) (digit : Char → Bool) (rest : List Char) :
    Except Fault (List Char) :=
  match afterDigits digit ('_' :: (if rest.head? = some '_' then rest.drop 1 else rest)) with
  | .error (some c) => .error (if c.isDigit then .badDigit c form else .badNumber form)
  | .error none => .error (.badNumber form)
  | .ok after => match after.head? with
    | some c => if c.isDigit then .error (.badDigit c form) else endNumber form after
    | none => .ok []

/-- The digits before a rest, without the underscores between them. -/
def digitsBefore (cs rest : List Char) : List Char :=
  (cs.take (cs.length - rest.length)).filter (· != '_')

/-- The least whole number that is rounded beyond every floating-point number. -/
def floatBound : Nat := Nat.pow 2 1024 - Nat.pow 2 970

/-- A whole number, from its digits. -/
def wholeNumber (base : Nat) (digits : List Char) : NumberLiteral :=
  if numberOf base (digits.filterMap hexDigit?) < floatBound then .real else .huge

/-- A whole number in decimal digits. -/
def decimalNumber (digits : List Char) : NumberLiteral :=
  if 4300 < digits.length && digits.any (· != '0') then .unreadable digits.length
  else wholeNumber 10 digits

/-- What follows decimal digits. -/
def afterDecimalDigits (cs : List Char) : Except Fault (List Char) :=
  match afterDigits Char.isDigit cs with
  | .ok rest => .ok rest
  | .error _ => .error (.badNumber .decimal)

/-- What follows the fraction of a number, if it has one. -/
def afterFraction (cs : List Char) : Except Fault (List Char) :=
  match cs with
  | '.' :: rest => if rest.head?.any Char.isDigit then afterDecimalDigits rest else .ok rest
  | _ => .ok cs

/-- What follows the exponent of a number, if it has one. -/
def afterExponent (cs : List Char) : Except Fault (List Char) :=
  match cs with
  | e :: rest =>
    if e == 'e' || e == 'E' then
      let isSigned := rest.head?.any fun c => c == '+' || c == '-'
      let digits := if isSigned then rest.drop 1 else rest
      if digits.head?.any Char.isDigit then afterDecimalDigits digits
      -- a letter without digits is no exponent, but a sign after it says that one was meant
      else if isSigned then .error (.badNumber .decimal)
      else .ok cs
    else .ok cs
  | [] => .ok []

/-- A decimal number and what follows it. -/
def takeDecimal (cs : List Char) : Except Fault (NumberLiteral × List Char) := do
  let rest ← afterDecimalDigits cs
  let digits := digitsBefore cs rest
  let after ← afterExponent (← afterFraction rest)
  -- zeros may lead an imaginary number or a fraction, but no integer
  if after.head?.any fun c => c == 'j' || c == 'J' then
    return (.imaginary, ← endNumber .imaginary (after.drop 1))
  else if after ≠ rest then return (.real, ← endNumber .decimal after)
  else if digits.head? = some '0' && digits.any (· != '0') && rest.head? ≠ some 'e' &&
      rest.head? ≠ some 'E' then
    .error .leadingZero
  else return (decimalNumber digits, ← endNumber .decimal after)

/-- A number and what follows it. -/
def takeNumber (cs : List Char) : Except Fault (NumberLiteral × List Char) :=
  let based (form : NumberForm) (base : Nat) (digit : Char → Bool) (rest : List Char) :
      Except Fault (NumberLiteral × List Char) :=
    (afterBase form digit rest).map fun after => (wholeNumber base (digitsBefore rest after), after)
  match cs with
  | '0' :: mark :: rest =>
    if mark == 'x' || mark == 'X' then based .hexadecimal 16 (fun c => (hexDigit? c).isSome) rest
    else if mark == 'o' || mark == 'O' then based .octal 8 (fun c => c.isDigit && c < '8') rest
    else if mark == 'b' || mark == 'B' then based .binary 2 (fun c => c == '0' || c == '1') rest
    else takeDecimal cs
  | _ => takeDecimal cs

/-! ## Texts and words -/

/-- What a text holds up to the quote that ends it, what follows, and the line on which it ends. The
line that is reached when it does not end is the error. -/
def takeBody (quote : List Char) (line : Nat) :
    List Char → Except Nat (List Char × List Char × Nat)
  | [] => .error line
  | ['\\'] => .error line
  | '\\' :: c :: rest =>
    (takeBody quote (if c = '\n' then line + 1 else line) rest).map fun (body, after) =>
      ('\\' :: c :: body, after)
  | c :: rest =>
    if quote.isPrefixOf (c :: rest) then .ok ([], rest.drop (quote.length - 1), line)
    else if c = '\n' ∧ quote.length = 1 then .error line
    else (takeBody quote (if c = '\n' then line + 1 else line) rest).map fun (body, after) =>
      (c :: body, after)

/-- The words before a quote that belong to the text, in small letters. -/
def textMarks : List String := ["", "r", "u", "b", "f", "br", "rb", "fr", "rf"]

/-- The words of the language. -/
def keywords : List String :=
  ["False", "None", "True", "and", "as", "assert", "async", "await", "break", "class", "continue",
    "def", "del", "elif", "else", "except", "finally", "for", "from", "global", "if", "import", "in",
    "is", "lambda", "nonlocal", "not", "or", "pass", "raise", "return", "try", "while", "with",
    "yield"]

/-- The operators of more than one character, longer ones first. -/
def operators : List (List Char) :=
  ["...", "**=", "//=", "<<=", ">>=", "!=", "%=", "&=", "**", "*=", "+=", "-=", "->", "//", "/=",
    ":=", "<<", "<=", "<>", "==", ">=", ">>", "@=", "^=", "|="].map String.toList

/-- The first character of a word that does not belong into an identifier. -/
def strangeCharacter? : List Char → Option Char
  | [] => none
  | c :: rest => if isIdentifierStart c then rest.find? (!isIdentifierPart ·) else some c

/-- The bracket that a closing one matches. -/
def openingOf (c : Char) : Char := if c == ')' then '(' else if c == ']' then '[' else '\x7b'

/-! ## Tokens -/

/-- What has been read of a text. -/
structure Lexer where
  /-- The tokens, latest first. -/
  tokens : List Token := []
  /-- The open brackets, innermost first, each with its line. -/
  brackets : List (Char × Nat) := []
  line : Nat := 1
  /-- At the start of a line, outside of brackets, the number of blanks there. -/
  margin : Option Nat := some 0

namespace Lexer

/-- Add a token. -/
def add (s : Lexer) (kind : TokenKind) : Lexer :=
  { s with tokens := ⟨kind, s.line, s.brackets.length⟩ :: s.tokens }

/-- Begin with the tokens of a line, if the character is one of them: after blanks, there is a token for
these. -/
def begin (s : Lexer) (c : Char) : Lexer :=
  if [' ', '\t', '\x0c', '\n', '#', '\\'].contains c then s
  else { (if s.margin.any (0 < ·) then s.add .indent else s) with margin := none }

/-- Open a bracket. -/
def enter (s : Lexer) (c : Char) : Except Ending Lexer :=
  if 200 ≤ s.brackets.length then .error (.wrong .tooManyBrackets)
  else .ok ({ s with brackets := (c, s.line) :: s.brackets }.add (.mark c.toString))

/-- Close a bracket. -/
def leave (s : Lexer) (c : Char) : Except Ending Lexer :=
  match s.brackets with
  | [] => .error (.wrong (.unmatched c))
  | (opening, line) :: rest =>
    if opening = openingOf c then .ok ({ s with brackets := rest }.add (.mark c.toString))
    else .error (.wrong (.mismatched c opening (if line = s.line then none else some line)))

/-- A text, given the word before it, its quote and what follows that. -/
def text (s : Lexer) (word : List Char) (quote : Char) (rest : List Char) :
    Except Ending (Lexer × List Char) :=
  let isTripled := rest.take 2 == [quote, quote]
  let closing := if isTripled then [quote, quote, quote] else [quote]
  match takeBody closing s.line (if isTripled then rest.drop 2 else rest) with
  | .ok (body, after, line) =>
    .ok ({ s.add (.text {
        isBytes := word.contains 'b', isRaw := word.contains 'r', isFormatted := word.contains 'f',
        body }) with line }, after)
  | .error line => .error (.wrong (.endlessText isTripled line))

/-- A word, or a text with the word before it, and what follows. -/
def word (s : Lexer) (cs : List Char) : Except Ending (Lexer × List Char) :=
  let letters := cs.takeWhile isWordChar
  let rest := cs.dropWhile isWordChar
  let small := letters.map Char.toLower
  let name := String.ofList letters
  -- letters before a quote mark its text, if they are among the marks of texts
  match textMarks.contains (String.ofList small), rest with
  | true, '"' :: after => s.text small '"' after
  | true, '\'' :: after => s.text small '\'' after
  | _, _ => match strangeCharacter? letters with
    | some c => .error (.wrong (.strangeCharacter c))
    | none => .ok (s.add (if keywords.contains name then .mark name else .name name), rest)

/-- The end of a line. -/
def newline (s : Lexer) : Lexer :=
  if s.brackets.isEmpty then
    { (if s.margin.isNone then s.add .lineEnd else s) with line := s.line + 1, margin := some 0 }
  else { s with line := s.line + 1 }

/-- The end of the text as it shows where nothing more can be read. -/
def cut (s : Lexer) (e : Fault) : Ending := .cut e s.brackets.head?

/-- The token that a character begins, and what follows it. -/
def step (s : Lexer) (c : Char) (rest : List Char) : Except Ending (Lexer × List Char) :=
  if c == ' ' || c == '\t' then .ok ({ s with margin := s.margin.map (· + 1) }, rest)
  else if c == '\x0c' then .ok ({ s with margin := s.margin.map fun _ => 0 }, rest)
  else if c == '\n' then .ok (s.newline, rest)
  else if c == '#' then .ok (s, rest.dropWhile (· != '\n'))
  else if c == '\\' then match rest with
    -- the line goes on in the next one, if there is anything after the break
    | '\n' :: _ :: _ => .ok ({ s with line := s.line + 1 }, rest.drop 1)
    | _ => .error (s.cut .strayBackslash)
  else if c == '(' || c == '[' || c == '\x7b' then (s.enter c).map (·, rest)
  else if c == ')' || c == ']' || c == '\x7d' then (s.leave c).map (·, rest)
  else if c == '"' || c == '\'' then s.text [] c rest
  else if c.isDigit || (c == '.' && rest.head?.any Char.isDigit) then
    match takeNumber (c :: rest) with
    | .ok (n, rest) => .ok (s.add (.number n), rest)
    | .error e => .error (.wrong e)
  else if isWordChar c then s.word (c :: rest)
  else if !isPrintable c then .error (.wrong (.strangeCharacter c))
  -- the operators stand with the longer ones first
  else match operators.find? (·.isPrefixOf (c :: rest)) with
    | some cs => .ok (s.add (.mark (String.ofList cs)), rest.drop (cs.length - 1))
    | none => .ok (s.add (.mark c.toString), rest)

/-- The tokens that were read, with what comes after them. -/
def scanned (s : Lexer) (ending : Ending) (isClose : Bool) : Scan :=
  { tokens := s.tokens.reverse, ending, isClose }

/-- Is the end of a token found only by what follows it? A text that holds something ends in itself. -/
def isOpenEnded (k : TokenKind) : Bool :=
  match k with
  | .text t => t.body.isEmpty
  | _ => true

/-- Does a step read a token up to the end of the text? -/
def meetsEnd (before after : Lexer) (rest : List Char) : Bool :=
  rest.isEmpty && before.tokens.length < after.tokens.length
    && (after.tokens.head?).any (isOpenEnded ·.kind)

/-- Read to the end of a text. Each step takes a character from it, so that its length is enough for
`fuel`. `isClose` says whether the last step met the end. -/
def run : Nat → Bool → Lexer → List Char → Scan
  | fuel + 1, _, s, c :: rest =>
    let s := s.begin c
    match s.step c rest with
    | .ok (next, rest) => run fuel (s.meetsEnd next rest) next rest
    | .error ending => s.scanned ending false
  | _, isClose, s, _ => match s.brackets with
    | [] => (s.add .finish).scanned .complete isClose
    | (c, line) :: _ => s.scanned (.cut (.neverClosed c) (some (c, line))) isClose

end Lexer

/-- The tokens of a text. -/
def scan (cs : List Char) : Scan :=
  let cs := normalizeBreaks cs
  if cs.contains '\x00' then { tokens := [], ending := .wrong .nullCharacter, isClose := false }
  else Lexer.run cs.length false {} cs

end SinkAudit.Expression
