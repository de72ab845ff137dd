import SinkAudit.Expression.Escape

/-!
# Expressions in texts

A formatted text holds expressions in braces. Doubled braces stand for single ones. After an expression
may come an equals sign, a conversion after an exclamation mark, and after a colon a format, which may
hold expressions once more.

- `Formatted.takeLiteral`: the text up to the next brace.
- `Formatted.takeExpression`: the expression up to the mark that ends it.
- `Formatted.run`: the text with all expressions in it.
-/

namespace SinkAudit.Expression.Formatted

open Text

/-- Is it a brace? -/
def isBrace (c : Char) : Bool := c == '\x7b' || c == '\x7d'

/-- How many characters at the beginning are certainly no braces of expressions: an escape, or one
character. -/
def inertLength (isRaw : Bool) (cs : List Char) : Nat :=
  match isRaw, cs with
  | false, '\\' :: 'N' :: '\x7b' :: rest => 4 + (rest.takeWhile (· != '\x7d')).length
  | false, '\\' :: 'N' :: _ => 3
  | false, '\\' :: c :: _ => if isBrace c then 1 else 2
  | _, c :: _ => if isBrace c then 0 else 1
  | _, [] => 0

/-- The text up to a brace or a doubled brace, whether a doubled one ended it, and what follows. Doubled
braces count only outside of formats. The first `inert` characters are no braces. -/
def takeLiteral (isRaw isFormat : Bool) (inert : Nat) :
    List Char → Except Fault (List Char × Bool × List Char)
  | [] => .ok ([], false, [])
  | c :: rest =>
    -- inside an escape braces mean nothing
    let inert := if inert = 0 then inertLength isRaw (c :: rest) else inert
    if 0 < inert then (takeLiteral isRaw isFormat (inert - 1) rest).map fun (body, after) =>
      (c :: body, after)
    else if isFormat then .ok ([], false, c :: rest)
    -- a brace that is doubled is a brace of the text
    else if rest.head? = some c then .ok ([c], true, rest.drop 1)
    else if c = '\x7d' then .error .loneBrace
    else .ok ([], false, c :: rest)

/-- Does a mark outside of brackets go on with the next character, so that it ends no expression? -/
def isDoubled (c : Char) (rest : List Char) : Bool :=
  rest.head? = some '=' && (c == '!' || c == '=' || c == '<' || c == '>')

/-- An expression and what follows it, beginning with the mark that ends it. `skip` characters belong to
a mark before them; `quote` is that of the text that is open, and whether it is tripled. -/
def takeExpression (skip : Nat) (quote : Option (Char × Bool)) (brackets : List Char) :
    List Char → Except Fault (List Char × List Char)
  | [] =>
    if quote.isSome then .error .endlessInnerText
    else .error ((brackets.head?.map Fault.unmatchedInner).getD .missingBrace)
  | c :: rest =>
    let go (skip : Nat) (quote : Option (Char × Bool)) (brackets : List Char) :
        Except Fault (List Char × List Char) :=
      (takeExpression skip quote brackets rest).map fun (body, after) => (c :: body, after)
    let isTriple := rest.take 2 == [c, c]
    -- a text of three quotes opens and closes with all of them, and two marks are taken as one
    if 0 < skip then go (skip - 1) quote brackets
    else if c = '\\' then .error .innerBackslash
    else match quote with
    | some (q, isTripled) =>
      if c ≠ q then go 0 quote brackets
      else if !isTripled then go 0 none brackets
      else if isTriple then go 2 none brackets
      else go 0 quote brackets
    | none =>
      if c == '\'' || c == '"' then go (if isTriple then 2 else 0) (some (c, isTriple)) brackets
      else if c == '(' || c == '[' || c == '\x7b' then
        if 200 ≤ brackets.length then .error .tooManyInnerBrackets else go 0 none (c :: brackets)
      else if c = '#' then .error .innerComment
      -- two of these marks are an operator; one of them ends the expression
      else if brackets.isEmpty && isDoubled c rest then go 1 none brackets
      else if brackets.isEmpty && (c == '!' || c == ':' || c == '\x7d' || c == '=') then
        .ok ([], c :: rest)
      else if c == ')' || c == ']' || c == '\x7d' then match brackets with
        | [] => .error (.unmatchedInner c)
        | opening :: brackets =>
          let fits := opening == (if c == ')' then '(' else if c == ']' then '[' else '\x7b')
          if fits then go 0 none brackets else .error (.mismatchedInner c opening)
      else go 0 none brackets

/-- The conversion after an expression, given what follows its mark, and what follows it. -/
def afterConversion : List Char → Except Fault (List Char)
  | [] => .error .missingBrace
  | c :: rest =>
    if c ≠ 's' ∧ c ≠ 'r' ∧ c ≠ 'a' then .error .badConversion
    else if rest.isEmpty then .error .missingBrace
    else .ok rest

/-- What follows an equals sign after an expression, given what follows the expression. -/
def afterEquals (cs : List Char) : Except Fault (List Char) :=
  match cs with
  | '=' :: rest =>
    let rest := rest.dropWhile fun c => c == ' ' || ('\t' ≤ c && c ≤ '\r')
    if rest.isEmpty then .error .missingBrace else .ok rest
  | _ => .ok cs

/-- Is there nothing in an expression? -/
def isEmpty (cs : List Char) : Bool :=
  cs.all fun c => c == ' ' || c == '\t' || c == '\n' || c == '\x0c'

/-- A fault of a formatted text. -/
inductive Error where
  /-- The text itself has it. -/
  | own (e : Fault)
  /-- An expression in the text has it. -/
  | foreign (e : Fault)

/-- A fault of the text itself, if there is one. -/
def owned {α : Type} : Except Fault α → Except Error α
  | .ok a => .ok a
  | .error e => .error (.own e)

/-- Check an expression that ends before a mark. `check` finds the faults of expressions. -/
def checkExpression (check : List Char → Option Fault) (cs rest : List Char) :
    Except Error Unit :=
  if isEmpty cs then .error (.own (.emptyInner (rest.head?.filter (· != '\x7d'))))
  else match check (['('] ++ cs ++ [')', '\n']) with
    | some e => .error (.foreign e)
    | none => .ok ()

/-- What follows an expression, its mark and all that belongs to it, up to its format. -/
def afterMark (cs : List Char) : Except Fault (List Char) := do
  let rest ← afterEquals cs
  if rest.head? = some '!' then afterConversion (rest.drop 1) else return rest

/-- Read a text, or the format inside one at some depth, and return what follows it. Each step takes a
character, so that the length of the text is enough for `fuel`. -/
def run (check : List Char → Option Fault) (isRaw : Bool) :
    Nat → Nat → List Char → Except Error (List Char)
  | 0, _, cs => .ok cs
  | fuel + 1, depth, cs => do
    let (literal, isDouble, rest) ← owned (takeLiteral isRaw (0 < depth) 0 cs)
    match if isRaw then none else Escape.faultFrom? 0 literal with
    | some e => .error (.own e)
    | none =>
      if isDouble then run check isRaw fuel depth rest
      else match rest with
        | '\x7b' :: rest =>
          if 2 ≤ depth then .error (.own .tooDeep)
          else
            let (expression, rest) ← owned (takeExpression 0 none [] rest)
            checkExpression check expression rest
            let rest ← owned (afterMark rest)
            -- the format after a colon may have expressions of its own, one level deep
            let rest ← if rest.head? ≠ some ':' then .ok rest
              else if rest.length ≤ 1 then .error (.own .missingBrace)
              else run check isRaw fuel (depth + 1) (rest.drop 1)
            if rest.head? = some '\x7d' then run check isRaw fuel depth (rest.drop 1)
            else .error (.own .missingBrace)
        | _ =>
          if 0 < depth && rest.head? ≠ some '\x7d' then .error (.own .missingBrace)
          else .ok rest

/-- The error of a formatted text. -/
def error? (check : List Char → Option Fault) (t : TextLiteral) : Option Error :=
  match run check (t.isRaw || !t.body.contains '\\') (t.body.length + 1) 0 t.body with
  | .ok _ => none
  | .error e => some e

end SinkAudit.Expression.Formatted
