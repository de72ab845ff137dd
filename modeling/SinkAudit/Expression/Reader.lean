import SinkAudit.Expression.Grammar
import SinkAudit.Expression.Lexer

/-!
# Reading expressions

A text is read twice if it is no expression: the second time, what may have been meant is searched for.
Whatever fault the grammar finds, one in the tokens after it counts instead, because the rest of the text
is cut into tokens before a fault of the grammar is reported.

- `parse`: the expression that rules find in tokens.
- `read`: the expression that a text is.
- `literalFault?`: why a text is no literal.
-/

namespace SinkAudit.Expression

/-- The expression that a rule finds in tokens. The fault that is found instead of one depends on how
the tokens end. -/
def parse (isInner : Bool) (formattedError? : TextLiteral → Option Formatted.Error)
    (start : Rule Tree) (s : Scan) : Except Fault Tree :=
  let tokens := s.tokens.reverse.toArray
  let blank : Context := {
    tokens, rows := #[], current := Row.empty 0, isSearching := false, plainRows := #[],
    plainFrom := tokens.size + 1, isInner, formattedError? }
  let plainRows := table phrase blank
  let first := start { blank with rows := plainRows } tokens.size
  let tokenAt (position : Nat) : Option Token := tokens[position - 1]?
  let refuse (e : Fault) (reach : Nat) : Except Fault Tree :=
    let line := ((tokenAt reach).map (·.line)).getD 1
    .error ((s.ending.faultAfter? line).getD e)
  let refuseFound (e : Fault) (reach : Nat) : Except Fault Tree :=
    if s.isClose && reach = 1 then .error e else refuse e reach
  let atEnd : Except Fault Tree := .error (s.ending.fault?.getD .misplaced)
  match first.result with
  | .some t _ => .ok t
  | .fault e => refuseFound e first.reach
  | .ended => atEnd
  | .none =>
    -- nothing fits and nothing is reported: read again, with the rules that look for what was meant
    let searching := { blank with plainRows, isSearching := true }
    let second := start { searching with rows := table phrase searching } tokens.size
    let reach := min first.reach second.reach
    match second.result with
    | .fault e => refuseFound e reach
    | .ended => atEnd
    | _ =>
      if (tokenAt first.reach).any (·.kind = .indent) then .error .unexpectedIndent
      else refuse (blank.shown .misplaced) reach

/-- The expression that a text is, or that a text in braces begins with. Expressions inside of texts are
shorter than the text around them, so that its length is enough for `fuel`. -/
def read (isInner : Bool) : Nat → List Char → Except Fault Tree
  | 0, _ => .error .misplaced
  | fuel + 1, cs =>
    let innerFault? (cs : List Char) : Option Fault :=
      match read true fuel cs with
      | .ok _ => none
      | .error e => some e
    parse isInner (Formatted.error? innerFault?) (if isInner then innerText else wholeText) (scan cs)

/-- Why a text is no literal, if it is none. -/
def literalFault? (cs : List Char) : Option Fault :=
  match read false (cs.length + 1) cs with
  | .ok t => t.fault?
  | .error e => some e

end SinkAudit.Expression
