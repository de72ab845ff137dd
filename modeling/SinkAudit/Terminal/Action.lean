import SinkAudit.Expression.Reader
import SinkAudit.Text.Blank

/-!
# Parameters of actions

A style whose name begins with an at sign is an action. Its parameters are the dotted name of a function
with arguments in parentheses, or arguments alone. Arguments are a literal; nothing is done with them but
to check that they are one, when the tag is closed (`rich.markup.render`).

It looks far-fetched that the output of an audit should hold an action, as all texts of a snapshot are
escaped. But they are escaped one by one and joined afterwards, and what the parts make together may be a
tag of any kind (`messagesCell`).

- `arguments`: the literal in parameters.
- `check`: the error in parameters, if there is one.
-/

namespace SinkAudit.Action

/-- May the character stand in the name of a function? -/
def isNameChar (c : Char) : Bool := Text.isAlphanumeric c || c == '_' || c == '.'

/-- The literal in parameters: what stands in parentheses behind a name, or everything. A name alone
has no arguments. -/
def arguments (parameters : List Char) : List Char :=
  let cs := Text.trimBy Text.isBlank parameters
  match cs.dropWhile isNameChar with
  | [] => ['(', ')']
  | '(' :: inner => if inner.getLast? = some ')' ∧ '\n' ∉ inner then '(' :: inner else cs
  | _ => cs

/-- An error in the parameters of an action. -/
structure Error where
  parameters : List Char
  fault : Expression.Fault
  deriving DecidableEq

/-- The error in parameters, if there is one. -/
def check (parameters : List Char) : Except Error Unit :=
  match Expression.literalFault? (arguments parameters) with
  | none => .ok ()
  | some fault => .error ⟨parameters, fault⟩

/-- The text of the error. A fault of form shows the literal. -/
def Error.message (e : Error) : String :=
  let quoted (cs : List Char) : String := Text.quoteString (String.ofList cs)
  "error parsing "
    ++ (if e.fault.isFormal then quoted (arguments e.parameters) ++ " in " else "")
    ++ quoted e.parameters ++ "; " ++ e.fault.message

end SinkAudit.Action
