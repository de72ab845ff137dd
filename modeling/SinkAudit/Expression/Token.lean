import SinkAudit.Expression.Fault

/-!
# Tokens of expressions

The parameters of an action in printed markup are read as a literal (`ast.literal_eval`), and the error
there names the fault of the text that should be one. Which fault that is depends on the whole reading,
from the first token on, so the reading of expressions is kept as far as faults can tell it apart, and no
further: no name is looked up, and no value is computed.

An expression is read as a row of tokens. Words of the language, operators and brackets are marks, told
apart by how they are written.

- `TokenKind`, `Token`: a token, with the line on which it begins and the number of brackets that are
  open after it.
- `Ending`: what comes after the last token.
- `Scan`: the tokens of a text with their ending.
-/

namespace SinkAudit.Expression

/-- The value of a number, as far as it matters. -/
inductive NumberLiteral where
  | real
  /-- A whole number beyond every floating-point number. -/
  | huge
  | imaginary
  /-- A whole number of more decimal digits than are read. -/
  | unreadable (digits : Nat)
  deriving DecidableEq

/-- A text as it is written between its quotes. -/
structure TextLiteral where
  isBytes : Bool
  /-- Are backslashes characters like others? -/
  isRaw : Bool
  /-- May it hold expressions in braces? -/
  isFormatted : Bool
  body : List Char
  deriving DecidableEq

/-- A token. -/
inductive TokenKind where
  | name (s : String)
  | number (n : NumberLiteral)
  | text (t : TextLiteral)
  | mark (s : String)
  | lineEnd
  /-- A line begins further to the right than the first one. -/
  | indent
  | finish
  deriving DecidableEq

/-- A token in its place. -/
structure Token where
  kind : TokenKind
  line : Nat
  /-- The number of brackets that are open after it. -/
  depth : Nat

/-- What comes after the last token. -/
inductive Ending where
  | complete
  /-- Nothing more can be read. The fault counts only for who asks for more, unless the innermost open
  bracket, given with its line, is from an earlier line than what was read. -/
  | cut (e : Fault) (bracket : Option (Char × Nat))
  /-- A fault that counts wherever it stands. -/
  | wrong (e : Fault)

/-- The tokens of a text. -/
structure Scan where
  tokens : List Token
  ending : Ending
  /-- Is the end of the text met already by reading the last token? -/
  isClose : Bool

/-- The fault at the end that is found by reading the rest when nothing after a line was read. -/
def Ending.faultAfter? (e : Ending) (line : Nat) : Option Fault :=
  match e with
  | complete => none
  | wrong e => some e
  | cut _ bracket => bracket.bind fun (c, from?) => if from? < line then some (.neverClosed c) else none

/-- The fault that is met at the end. -/
def Ending.fault? : Ending → Option Fault
  | complete => none
  | cut e _ | wrong e => some e

end SinkAudit.Expression
