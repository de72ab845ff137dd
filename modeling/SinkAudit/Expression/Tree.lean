import SinkAudit.Expression.Token

/-!
# Expressions

An expression as a tree. Of what is no literal, only as much is kept as its faults are told by.

- `Tree`: the expressions.
- `Tree.kindName`: what an expression is called.
- `Tree.notAssignable?`: the part of a target that nothing can be assigned to.
- `Tree.fault?`: the fault of an expression that is no literal.
-/

namespace SinkAudit.Expression

/-- An expression. -/
inductive Tree where
  | name (s : String)
  /-- One of the words for constants. -/
  | word (s : String)
  | ellipsis
  | number (n : NumberLiteral)
  | text
  | formatted
  | tuple (items : List Tree)
  | set (items : List Tree)
  /-- Keys with their values; what is unpacked has no key. -/
  | dict (entries : List (Option Tree × Tree))
  | member
  | call (function : Tree) (hasArguments : Bool)
  /-- A number or another expression behind one plus or minus. -/
  | signed (operand : Tree)
  /-- One plus or minus between two expressions. -/
  | sum (left right : Tree)
  /-- Any other operation. -/
  | operation
  /-- A comparison, and whether its first operator asks for membership. -/
  | comparison (isMembership : Bool) (left : Tree)
  | conditional
  | function
  | assigned
  | starred (operand : Tree)
  | yielded
  | awaited
  | generator
  | setComprehension
  | dictComprehension

namespace Tree

/-- What an expression is called. -/
def kindName : Tree → String
  | name _ => "name"
  | word s => s
  | ellipsis => "ellipsis"
  | number _ | text => "literal"
  | formatted => "f-string expression"
  | tuple _ => "tuple"
  | set _ => "set display"
  | dict _ => "dict literal"
  | member => "attribute"
  | call _ _ => "function call"
  | signed _ | sum _ _ | operation => "expression"
  | comparison _ _ => "comparison"
  | conditional => "conditional expression"
  | function => "lambda"
  | assigned => "named expression"
  | starred _ => "starred"
  | yielded => "yield expression"
  | awaited => "await expression"
  | generator => "generator expression"
  | setComprehension => "set comprehension"
  | dictComprehension => "dict comprehension"

/-- Is it one of the two names that once stood before their arguments without parentheses? -/
def isBareCall : Tree → Bool
  | name s => s == "print" || s == "exec"
  | _ => false

mutual

/-- The part of the target of a comprehension that nothing can be assigned to. The target of a
comparison for membership is its left side. -/
def notAssignable? : Tree → Option Tree
  | name _ | member | comparison false _ => none
  | comparison true left => notAssignable? left
  | starred operand => notAssignable? operand
  | tuple items => firstNotAssignable? items
  | t => some t

/-- The first part of several targets that nothing can be assigned to. -/
def firstNotAssignable? : List Tree → Option Tree
  | [] => none
  | t :: rest => (notAssignable? t).or (firstNotAssignable? rest)

end

/-! ## Literals -/

/-- What a value is, as far as it matters for being a member of a set. -/
inductive Kind where
  | hashable
  | dict
  | set

/-- Sets and dictionaries cannot be members of sets. -/
def Kind.member : Kind → Except Fault Unit
  | hashable => .ok ()
  | dict => .error (.unhashable "dict")
  | set => .error (.unhashable "set")

/-- A number as it may stand in a literal, or nothing. -/
def plainNumber? : Tree → Option NumberLiteral
  | number n => some n
  | _ => none

/-- A number with or without a sign, or nothing. -/
def signedNumber? : Tree → Option NumberLiteral
  | signed t => t.plainNumber?
  | t => t.plainNumber?

mutual

/-- The kind of the value of a literal. What is no literal has a fault. -/
def kind : Tree → Except Fault Kind
  | word _ | ellipsis | number _ | text => .ok .hashable
  | tuple items => itemKinds items
  | set items => do
    memberKinds items
    return .set
  | dict entries => do
    entryKinds entries
    return .dict
  | call (name "set") false => .ok .set
  | signed (number _) => .ok .hashable
  | sum left right => match left.signedNumber?, right.plainNumber? with
    | some .real, some .imaginary => .ok .hashable
    | some .huge, some .imaginary => .error .tooLarge
    | _, _ => .error .notLiteral
  | _ => .error .notLiteral

/-- The kind of a tuple: that of its first item that cannot be a member of a set. -/
def itemKinds : List Tree → Except Fault Kind
  | [] => .ok .hashable
  | t :: rest => do
    let first ← kind t
    let others ← itemKinds rest
    return match first with
      | .hashable => others
      | k => k

/-- Check the items of a set, one after the other. -/
def memberKinds : List Tree → Except Fault Unit
  | [] => .ok ()
  | t :: rest => do
    (← kind t).member
    memberKinds rest

/-- Check the entries of a dictionary, one after the other. -/
def entryKinds : List (Option Tree × Tree) → Except Fault Unit
  | [] => .ok ()
  | (none, _) :: _ => .error .unpackedEntries
  | (some key, value) :: rest => do
    let k ← kind key
    discard <| kind value
    k.member
    entryKinds rest

end

/-- The fault of an expression that is no literal. -/
def fault? (t : Tree) : Option Fault :=
  match t.kind with
  | .ok _ => none
  | .error e => some e

end Tree

end SinkAudit.Expression
