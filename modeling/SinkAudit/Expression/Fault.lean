import SinkAudit.Text.Quoted

/-!
# What can be wrong with an expression

The faults of a text that should be an expression, and then one without names and operations. They
are found in four stages: the text is cut into tokens, the texts in it are decoded, the tokens have to
follow the grammar, and the expression has to be a literal.

- `Fault`: the causes.
- `Fault.message`: what each says.
- `Fault.isFormal`: whether it is a fault of form, found before the expression is taken for a literal.
-/

namespace SinkAudit.Expression

/-- How a number is written. -/
inductive NumberForm where
  | decimal
  | hexadecimal
  | octal
  | binary
  | imaginary
  deriving DecidableEq

/-- The name of a form of numbers. -/
def NumberForm.name : NumberForm → String
  | decimal => "decimal"
  | hexadecimal => "hexadecimal"
  | octal => "octal"
  | binary => "binary"
  | imaginary => "imaginary"

/-- Why an escape in a text stands for no character. -/
inductive EscapeFault where
  /-- It has too few digits. The letter says how many it needs. -/
  | truncated (letter : Char)
  /-- Its number is not that of a character. -/
  | beyondUnicode
  /-- A name is missing, or its braces are. -/
  | malformedName
  /-- No character has the name. -/
  | unknownName
  deriving DecidableEq

/-- What is wrong with an escape. -/
def EscapeFault.message : EscapeFault → String
  | truncated letter =>
    let digits := if letter = 'x' then 2 else if letter = 'u' then 4 else 8
    "truncated \\" ++ String.ofList (letter :: List.replicate digits 'X') ++ " escape"
  | beyondUnicode => "illegal Unicode character"
  | malformedName => "malformed \\N character escape"
  | unknownName => "unknown Unicode character name"

/-- Why the parameters of a function are none. -/
inductive ParameterFault where
  | plainAfterDefault
  | missingDefault
  | parenthesized
  | slashFirst
  | slashTwice
  | slashAfterStar
  | missingComma
  | starAlone
  | defaultOfStar
  | starTwice
  | defaultOfDoubleStar
  | afterDoubleStar
  deriving DecidableEq

/-- What is wrong with parameters. -/
def ParameterFault.message : ParameterFault → String
  | plainAfterDefault => "non-default argument follows default argument"
  | missingDefault => "expected default value expression"
  | parenthesized => "Lambda expression parameters cannot be parenthesized"
  | slashFirst => "at least one argument must precede /"
  | slashTwice => "/ may appear only once"
  | slashAfterStar => "/ must be ahead of *"
  | missingComma => "expected comma between / and *"
  | starAlone => "named arguments must follow bare *"
  | defaultOfStar => "var-positional argument cannot have default value"
  | starTwice => "* argument may appear only once"
  | defaultOfDoubleStar => "var-keyword argument cannot have default value"
  | afterDoubleStar => "arguments cannot follow var-keyword argument"

/-- What is wrong with a text. -/
inductive Fault where
  -- tokens
  | nullCharacter
  | neverClosed (opening : Char)
  | unmatched (closing : Char)
  /-- A bracket closes one of another kind, which was opened on an earlier line if a line is given. -/
  | mismatched (closing opening : Char) (line : Option Nat)
  | tooManyBrackets
  | endlessText (tripled : Bool) (line : Nat)
  | badNumber (form : NumberForm)
  | badDigit (c : Char) (form : NumberForm)
  | leadingZero
  | longInteger (digits : Nat)
  | strayBackslash
  | strangeCharacter (c : Char)
  | unexpectedIndent
  -- texts
  | badEscape (first last : Nat) (e : EscapeFault)
  | badByteEscape (position : Nat)
  | bytesBeyondAscii
  /-- A text stands beside a row of bytes. -/
  | mixedTexts
  -- expressions in texts
  | loneBrace
  | tooDeep
  | innerBackslash
  | innerComment
  | endlessInnerText
  | tooManyInnerBrackets
  | unmatchedInner (bracket : Char)
  | mismatchedInner (closing opening : Char)
  | missingBrace
  /-- There is nothing before a mark, or before the brace that closes. -/
  | emptyInner (mark : Option Char)
  | badConversion
  /-- The expression in a text has a fault. -/
  | inner (e : Fault)
  -- grammar
  | misplaced
  | missingComma
  | missingElse
  | missingParentheses (name : String)
  | equalsAfterName
  | equalsAfter (kind : String)
  | walrusAfter (kind : String)
  | notAssignable (kind : String)
  | emptyStar
  | starredElement
  | bareTarget
  | doubleStarredElement
  | starredGroup
  | doubleStarredGroup
  | starredValue
  | missingValue
  | missingColon
  | starAfterDoubleStar
  | bareGenerator
  | plainAfterUnpacking
  | plainAfterNamed
  | assignedArgument
  | parameter (e : ParameterFault)
  -- literals
  | notLiteral
  /-- A dictionary is unpacked. -/
  | unpackedEntries
  | unhashable (kind : String)
  | tooLarge
  deriving DecidableEq

namespace Fault

/-- A code point with at least four digits. -/
def codePoint (c : Char) : String :=
  "U+" ++ String.ofList ((Text.digitsOf 16 4 c.toNat).map Char.toUpper)

/-- What is wrong. -/
def message : Fault → String
  | nullCharacter => "source code string cannot contain null bytes"
  | neverClosed c => "'" ++ c.toString ++ "' was never closed"
  | unmatched c => "unmatched '" ++ c.toString ++ "'"
  | mismatched c opening line =>
    "closing parenthesis '" ++ c.toString ++ "' does not match opening parenthesis '"
      ++ opening.toString ++ "'" ++ ((line.map fun n => " on line " ++ toString n).getD "")
  | tooManyBrackets => "too many nested parentheses"
  | endlessText tripled line =>
    "unterminated " ++ (if tripled then "triple-quoted " else "")
      ++ "string literal (detected at line " ++ toString line ++ ")"
  | badNumber form => "invalid " ++ form.name ++ " literal"
  | badDigit c form => "invalid digit '" ++ c.toString ++ "' in " ++ form.name ++ " literal"
  | leadingZero =>
    "leading zeros in decimal integer literals are not permitted; "
      ++ "use an 0o prefix for octal integers"
  | longInteger digits =>
    "Exceeds the limit (4300 digits) for integer string conversion: value has " ++ toString digits
      ++ " digits; use sys.set_int_max_str_digits() to increase the limit"
      ++ " - Consider hexadecimal for huge integer literals to avoid decimal conversion limits."
  | strayBackslash => "unexpected character after line continuation character"
  | strangeCharacter c =>
    if Text.isPrintable c then "invalid character '" ++ c.toString ++ "' (" ++ codePoint c ++ ")"
    else "invalid non-printable character " ++ codePoint c
  | unexpectedIndent => "unexpected indent"
  | badEscape first last e =>
    "(unicode error) 'unicodeescape' codec can't decode bytes in position " ++ toString first ++ "-"
      ++ toString last ++ ": " ++ e.message
  | badByteEscape position => "(value error) invalid \\x escape at position " ++ toString position
  | bytesBeyondAscii => "bytes can only contain ASCII literal characters"
  | mixedTexts => "cannot mix bytes and nonbytes literals"
  | loneBrace => "f-string: single '\x7d' is not allowed"
  | tooDeep => "f-string: expressions nested too deeply"
  | innerBackslash => "f-string expression part cannot include a backslash"
  | innerComment => "f-string expression part cannot include '#'"
  | endlessInnerText => "f-string: unterminated string"
  | tooManyInnerBrackets => "f-string: too many nested parenthesis"
  | unmatchedInner c => "f-string: unmatched '" ++ c.toString ++ "'"
  | mismatchedInner c opening =>
    "f-string: closing parenthesis '" ++ c.toString ++ "' does not match opening parenthesis '"
      ++ opening.toString ++ "'"
  | missingBrace => "f-string: expecting '\x7d'"
  | emptyInner none => "f-string: empty expression not allowed"
  | emptyInner (some c) => "f-string: expression required before '" ++ c.toString ++ "'"
  | badConversion => "f-string: invalid conversion character: expected 's', 'r', or 'a'"
  | inner e => "f-string: " ++ e.message
  | misplaced => "invalid syntax"
  | missingComma => "invalid syntax. Perhaps you forgot a comma?"
  | missingElse => "expected 'else' after 'if' expression"
  | missingParentheses name =>
    "Missing parentheses in call to '" ++ name ++ "'. Did you mean " ++ name ++ "(...)?"
  | equalsAfterName => "invalid syntax. Maybe you meant '==' or ':=' instead of '='?"
  | equalsAfter kind =>
    "cannot assign to " ++ kind ++ " here. Maybe you meant '==' instead of '='?"
  | walrusAfter kind => "cannot use assignment expressions with " ++ kind
  | notAssignable kind => "cannot assign to " ++ kind
  | emptyStar => "Invalid star expression"
  | starredElement => "iterable unpacking cannot be used in comprehension"
  | bareTarget => "did you forget parentheses around the comprehension target?"
  | doubleStarredElement => "dict unpacking cannot be used in dict comprehension"
  | starredGroup => "cannot use starred expression here"
  | doubleStarredGroup => "cannot use double starred expression here"
  | starredValue => "cannot use a starred expression in a dictionary value"
  | missingValue => "expression expected after dictionary key and ':'"
  | missingColon => "':' expected after dictionary key"
  | starAfterDoubleStar => "iterable argument unpacking follows keyword argument unpacking"
  | bareGenerator => "Generator expression must be parenthesized"
  | plainAfterUnpacking => "positional argument follows keyword argument unpacking"
  | plainAfterNamed => "positional argument follows keyword argument"
  | assignedArgument => "expression cannot contain assignment, perhaps you meant \"==\"?"
  | parameter e => e.message
  | notLiteral => "malformed node or string on line 1"
  | unpackedEntries => "malformed node or string: None"
  | unhashable kind => "unhashable type: '" ++ kind ++ "'"
  | tooLarge => "int too large to convert to float"

/-- Is it a fault of the form of an expression, and not of its being no literal? -/
def isFormal : Fault → Bool
  | notLiteral | unpackedEntries | unhashable _ | tooLarge => false
  | _ => true

end Fault

end SinkAudit.Expression
