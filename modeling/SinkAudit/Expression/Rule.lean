import SinkAudit.Expression.Formatted
import SinkAudit.Expression.Tree

/-!
# Rules of a grammar

A rule reads tokens from a position on, which is the number of tokens that are left. It fits, does not
fit, or ends the reading with a fault; only the second lets another rule be tried. What rules make of each
position is kept in a table, from the last token to the first, so that a rule looks up what other rules
make of later positions.

- `Phrase`: the phrases that are kept in the table, simple ones before those made from them.
- `Outcome`, `Rule`: what a rule makes of a position, and how far it had to look.
- `Rule.orElse`, `ahead`, `many`, `separated`: rules from rules.
- `table`: what the rules of all phrases make of all positions.
-/

namespace SinkAudit.Expression

/-- What becomes of a rule at a position. -/
inductive Match (α : Type) where
  | none
  /-- The rule fits, and so many tokens are left after it. -/
  | some (value : α) (left : Nat)
  /-- The reading ends with a fault. -/
  | fault (e : Fault)
  /-- The tokens end before the reading does. -/
  | ended

/-- What a rule makes of a position. -/
structure Outcome (α : Type) where
  result : Match α
  /-- The number of tokens left at the furthest position that was looked at, or at the one before the
  rule if it did not look. -/
  reach : Nat

/-- The phrases that are looked up, each made from tokens, from phrases before it, and from any phrases
at later positions. -/
inductive Phrase where
  | factor
  | operation
  | inversion
  | disjunction
  | expression
  | element
  | target
  | starTarget
  deriving DecidableEq

/-- All phrases in order. -/
def Phrase.all : List Phrase :=
  [factor, operation, inversion, disjunction, expression, element, target, starTarget]

/-- What the phrases make of one position. -/
structure Row where
  factor : Outcome Tree
  operation : Outcome Tree
  inversion : Outcome Tree
  disjunction : Outcome Tree
  expression : Outcome Tree
  element : Outcome Tree
  target : Outcome Tree
  starTarget : Outcome Tree

/-- A row in which nothing has been found yet. -/
def Row.empty (position : Nat) : Row :=
  let nothing : Outcome Tree := ⟨.none, position + 1⟩
  ⟨nothing, nothing, nothing, nothing, nothing, nothing, nothing, nothing⟩

/-- What a phrase makes of the position. -/
def Row.get (r : Row) : Phrase → Outcome Tree
  | .factor => r.factor
  | .operation => r.operation
  | .inversion => r.inversion
  | .disjunction => r.disjunction
  | .expression => r.expression
  | .element => r.element
  | .target => r.target
  | .starTarget => r.starTarget

/-- The row with what a phrase makes of the position. -/
def Row.set (r : Row) (o : Outcome Tree) : Phrase → Row
  | .factor => { r with factor := o }
  | .operation => { r with operation := o }
  | .inversion => { r with inversion := o }
  | .disjunction => { r with disjunction := o }
  | .expression => { r with expression := o }
  | .element => { r with element := o }
  | .target => { r with target := o }
  | .starTarget => { r with starTarget := o }

/-- What was set is got. -/
theorem Row.get_set_self (r : Row) (o : Outcome Tree) (p : Phrase) : (r.set o p).get p = o := by
  cases p <;> rfl

/-- Setting one phrase leaves the others alone. -/
theorem Row.get_set_other (r : Row) (o : Outcome Tree) {p q : Phrase} (h : p ≠ q) :
    (r.set o p).get q = r.get q := by
  cases p <;> cases q <;> first | rfl | exact absurd rfl h

/-- What rules can see. -/
structure Context where
  /-- The tokens, last one first: at each position stands the token with as many others after it. -/
  tokens : Array Token
  /-- The rows of later positions, last one first. -/
  rows : Array Row
  /-- The row of the position that is being worked on. -/
  current : Row
  /-- Are texts searched for what may have been meant when they do not fit? -/
  isSearching : Bool
  /-- The rows of all positions as they are without searching. -/
  plainRows : Array Row
  /-- The positions with so many tokens left or more are not searched again. -/
  plainFrom : Nat
  /-- Is the expression part of a text? -/
  isInner : Bool
  /-- The error of a formatted text. -/
  formattedError? : TextLiteral → Option Formatted.Error

/-- A fault of the expression, as it shows. -/
def Context.shown (c : Context) (e : Fault) : Fault := if c.isInner then .inner e else e

/-- A rule. -/
def Rule (α : Type) : Type := Context → Nat → Outcome α

namespace Rule

variable {α β : Type}

/-- A rule that reads nothing. -/
protected def pure (a : α) : Rule α := fun _ n => ⟨.some a n, n + 1⟩

/-- A rule, and then another one, which may depend on what the first one found. -/
protected def bind (p : Rule α) (f : α → Rule β) : Rule β := fun c n =>
  let first := p c n
  match first.result with
  | .none => ⟨.none, first.reach⟩
  | .fault e => ⟨.fault e, first.reach⟩
  | .ended => ⟨.ended, first.reach⟩
  | .some a left =>
    let second := f a c left
    { second with reach := min first.reach second.reach }

instance : Monad Rule where
  pure := Rule.pure
  bind := Rule.bind

/-- A rule, or another one where it does not fit. -/
protected def orElse (p : Rule α) (q : Unit → Rule α) : Rule α := fun c n =>
  let first := p c n
  match first.result with
  | .none =>
    let second := q () c n
    { second with reach := min first.reach second.reach }
  | _ => first

instance : OrElse (Rule α) where
  orElse := Rule.orElse

/-- A rule that fits nowhere. -/
def fail : Rule α := fun _ n => ⟨.none, n + 1⟩

/-- End the reading with a fault. -/
def raise (e : Fault) : Rule α := fun c n => ⟨.fault (c.shown e), n + 1⟩

/-- End the reading if there is a fault. -/
def raiseIf (e? : Option Fault) : Rule Unit := (e?.map raise).getD (pure ())

/-- What a rule makes of the tokens that follow, without reading them. -/
def peek (p : Rule α) : Rule (Option α) := fun c n =>
  let o := p c n
  match o.result with
  | .none => ⟨.some Option.none n, o.reach⟩
  | .some a _ => ⟨.some (Option.some a) n, o.reach⟩
  | .fault e => ⟨.fault e, o.reach⟩
  | .ended => ⟨.ended, o.reach⟩

/-- Fits where a rule does, and reads nothing. -/
def ahead (p : Rule α) : Rule Unit := do
  if (← peek p).isNone then fail

/-- Fits where a rule does not, and reads nothing. -/
def notAhead (p : Rule α) : Rule Unit := do
  if (← peek p).isSome then fail

/-- A rule where it fits, and nothing elsewhere. -/
def maybe (p : Rule α) : Rule (Option α) := (Option.some <$> p) <|> pure Option.none

/-- A rule as often as it fits. Each time it reads a token, or the reading ends, so that one more than the
number of tokens left is enough for `fuel`. -/
def manyFrom (p : Rule α) : Nat → Rule (List α)
  | 0 => pure []
  | fuel + 1 => do
    match ← maybe p with
    | Option.none => return []
    | Option.some a => return a :: (← manyFrom p fuel)

/-- A rule as often as it fits. -/
def many (p : Rule α) : Rule (List α) := fun c n => manyFrom p (n + 1) c n

/-- A rule as often as it fits, and at least once. -/
def many1 (p : Rule α) : Rule (List α) := do return (← p) :: (← many p)

/-- The next token. -/
def token : Rule Token := fun c n => match n with
  | 0 => ⟨.ended, 0⟩
  | m + 1 => match c.tokens[m]? with
    | Option.some t => ⟨.some t m, n⟩
    | Option.none => ⟨.ended, n⟩

/-- The next token if it is of a kind. -/
def kind (k : TokenKind) : Rule Unit := do
  if (← token).kind ≠ k then fail

/-- A mark. -/
def mark (s : String) : Rule Unit := kind (.mark s)

/-- One of several marks. -/
def oneOf (marks : List String) : Rule String := do
  match (← token).kind with
  | .mark s => if marks.contains s then return s else fail
  | _ => fail

/-- A name. -/
def name : Rule String := do
  match (← token).kind with
  | .name s => return s
  | _ => fail

/-- A text. -/
def text : Rule TextLiteral := do
  match (← token).kind with
  | .text t => return t
  | _ => fail

/-- A comma. -/
def comma : Rule Unit := mark ","

/-- A rule once or more, with commas between. -/
def separated (p : Rule α) : Rule (List α) := do
  let first ← p
  return first :: (← many do
    comma
    p)

/-- The number of brackets that are open after the token read last. -/
def depth : Rule Nat := fun c n => ⟨.some (((c.tokens[n]?).map (·.depth)).getD 0) n, n + 1⟩

/-- The number of tokens that are left. -/
def position : Rule Nat := fun _ n => ⟨.some n n, n + 1⟩

/-- End the reading if there is an error in a formatted text. -/
def checkFormatted (t : TextLiteral) : Rule Unit := fun c n =>
  match c.formattedError? t with
  | Option.none => ⟨.some () n, n + 1⟩
  | Option.some (.own e) => ⟨.fault (c.shown e), n + 1⟩
  | Option.some (.foreign e) => ⟨.fault e, n + 1⟩

/-- A rule only when texts are searched for what may have been meant. -/
def searching (p : Rule α) : Rule α := fun c n => if c.isSearching then p c n else ⟨.none, n + 1⟩

/-- A rule without searching. -/
def plainly (p : Rule α) : Rule α := fun c n =>
  p { c with isSearching := false, rows := c.plainRows } n

/-- A rule, which does not search again where a phrase was read before without searching. -/
def after (p : Phrase) (r : Rule α) : Rule α := fun c n =>
  match c.plainRows[n - 1]? with
  | Option.some row => r { c with plainFrom := min c.plainFrom (row.get p).reach } n
  | Option.none => r c n

end Rule

/-- A phrase, looked up in the table. -/
def Phrase.rule (p : Phrase) : Rule Tree := fun c n => match n with
  | 0 => ⟨.ended, 0⟩
  | m + 1 => (((if c.plainFrom ≤ n then c.plainRows else c.rows)[m]?).getD c.current).get p

/-- What the phrases make of a position whose later positions are known. -/
def rowAt (grammar : Phrase → Rule Tree) (c : Context) (position : Nat) : Row :=
  Phrase.all.foldl (fun row p => row.set (grammar p { c with current := row } position) p)
    (Row.empty position)

/-- What the phrases make of all positions. -/
def table (grammar : Phrase → Rule Tree) (c : Context) : Array Row :=
  (List.range c.tokens.size).foldl
    (fun rows n => rows.push (rowAt grammar { c with rows } (n + 1))) #[]

end SinkAudit.Expression
