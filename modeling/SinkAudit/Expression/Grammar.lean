import SinkAudit.Expression.Rule

/-!
# The grammar of expressions

The rules follow the order in which alternatives are tried. Those behind `searching` fit nothing: they
look for what may have been meant where a text is no expression, and end the reading with that.

- `atom`, `primary`: values in brackets, names, calls.
- `phrase`: the rules of the phrases in the table.
- `wholeText`: an expression, or several with commas between, up to the end of the text.
- `innerText`: the same at the beginning of a text, where expressions may be starred.
-/

namespace SinkAudit.Expression

open Rule

/-- An operation behind a star. -/
def starredOperation : Rule Tree := do
  mark "*"
  return .starred (← Phrase.operation.rule)

/-- An expression behind a star. -/
def starredExpression : Rule Tree := do
  mark "*"
  return .starred (← Phrase.expression.rule <|> raise .emptyStar)

/-- An item of a tuple or a set. -/
def item : Rule Tree := starredOperation <|> Phrase.element.rule

/-- Items with commas between, and perhaps one after them. -/
def items : Rule (List Tree) := do
  let found ← separated item
  discard <| maybe comma
  return found

/-- An expression, or an operation behind a star. -/
def starExpression : Rule Tree := starredOperation <|> Phrase.expression.rule

/-- Expressions with commas between: a tuple, if there is a comma. -/
def starExpressions : Rule Tree := do
  let first ← starExpression
  let others ← many do
    comma
    starExpression
  let last ← maybe comma
  return if others.isEmpty && last.isNone then first else .tuple (first :: others)

/-- A name that takes the value of an expression. -/
def assignment : Rule Tree := do
  discard name
  mark ":="
  discard Phrase.expression.rule
  return .assigned

/-- An expression that no assignment follows, or an assignment. -/
def plainElement : Rule Tree := assignment <|> do
  let e ← Phrase.expression.rule
  notAhead (mark ":=")
  return e

/-- A value that a function yields. -/
def yielded : Rule Tree := do
  mark "yield"
  (do
      mark "from"
      discard Phrase.expression.rule) <|>
    discard (maybe starExpressions)
  return .yielded

/-! ## Comprehensions -/

/-- May a target go on here? -/
def targetGoesOn : Rule Unit := ahead (oneOf ["(", "[", "."])

/-- Targets with commas between. -/
def targets : Rule Unit := do
  discard (separated Phrase.starTarget.rule)
  discard (maybe comma)

/-- The clause of a comprehension whose target cannot be assigned to. -/
def badTarget : Rule Unit := do
  discard <| maybe (mark "async")
  mark "for"
  match (← starExpressions).notAssignable? with
  | some t => raise (.notAssignable t.kindName)
  | none => fail

/-- A clause of a comprehension, with its conditions. -/
def clause : Rule Unit := do
  let head ← maybe do
    discard <| maybe (mark "async")
    mark "for"
    targets
    mark "in"
  -- what is no clause may still be one with a bad target, if it is searched for what was meant
  match head with
  | some _ =>
    discard Phrase.disjunction.rule
    discard <| many do
      mark "if"
      Phrase.disjunction.rule
  | none => searching badTarget

/-- The clauses of a comprehension. -/
def clauses : Rule Unit := discard (many1 clause)

/-- A comprehension whose elements are not what they may be. -/
def badComprehension : Rule Tree := do
  let opening ← oneOf ["[", "(", "\x7b"]
  let isStarred ← maybe do
    discard starredExpression
    clauses
  if isStarred.isSome then raise .starredElement
  else if opening == "(" then fail
  else
    discard item
    comma
    discard <| maybe items
    clauses
    raise .bareTarget

/-- A generator in parentheses. -/
def generator : Rule Tree :=
  (do
    mark "("
    discard plainElement
    clauses
    mark ")"
    return .generator) <|>
  searching badComprehension

/-! ## Arguments -/

/-- What is known of arguments. -/
structure Arguments where
  /-- The number of arguments without a name. -/
  plain : Nat
  /-- Is a mapping unpacked? -/
  hasUnpacking : Bool

/-- Arguments, and then others. -/
def Arguments.append (a b : Arguments) : Arguments :=
  ⟨a.plain + b.plain, a.hasUnpacking || b.hasUnpacking⟩

/-- Several arguments. -/
def Arguments.join (as : List Arguments) : Arguments := as.foldl append ⟨0, false⟩

/-- An argument with a name that cannot have one. -/
def badNamedArgument : Rule Arguments :=
  (do
    let word ← oneOf ["True", "False", "None"]
    mark "="
    raise (.notAssignable word)) <|>
  (do
    discard name
    mark "="
    discard Phrase.expression.rule
    clauses
    raise .equalsAfterName) <|>
  (do
    notAhead do
      discard name
      mark "="
    discard Phrase.expression.rule
    mark "="
    raise .assignedArgument)

/-- An argument with a name. -/
def namedArgument : Rule Arguments := do
  discard name
  mark "="
  discard Phrase.expression.rule
  return ⟨0, false⟩

/-- An argument behind one star. -/
def starredArgument : Rule Arguments := do
  discard starredExpression
  return ⟨1, false⟩

/-- An argument with a name, or behind one star. -/
def namedOrStarred : Rule Arguments := searching badNamedArgument <|> namedArgument <|> starredArgument

/-- An argument with a name, or behind two stars. -/
def namedOrDoubleStarred : Rule Arguments := searching badNamedArgument <|> namedArgument <|> do
  mark "**"
  discard Phrase.expression.rule
  return ⟨0, true⟩

/-- Arguments that begin with a name or a star. -/
def laterArguments : Rule Arguments :=
  (do
    let first ← separated namedOrStarred
    comma
    return .join (first ++ (← separated namedOrDoubleStarred))) <|>
  Arguments.join <$> separated namedOrStarred <|>
  Arguments.join <$> separated namedOrDoubleStarred

/-- Arguments without a name, and then others. -/
def argumentList : Rule Arguments :=
  (do
    let plain ← separated (starredArgument <|> do
      discard plainElement
      notAhead (mark "=")
      return ⟨1, false⟩)
    let later ← maybe do
      comma
      laterArguments
    return .join (plain ++ later.toList)) <|>
  laterArguments

/-- Arguments in the wrong order, or with a bare generator among them. -/
def badArguments : Rule Arguments :=
  (do
    discard argumentList
    comma
    discard <| separated do
      discard starredExpression
      notAhead (mark "=")
    raise .starAfterDoubleStar) <|>
  (do
    discard Phrase.expression.rule
    clauses
    comma
    discard <| maybe (discard argumentList <|> do
      discard Phrase.expression.rule
      clauses)
    raise .bareGenerator) <|>
  (do
    discard name
    mark "="
    discard Phrase.expression.rule
    clauses
    raise .equalsAfterName) <|>
  do
    -- the last two ways start with a whole list of arguments, and differ in what follows it
    let generatorAfter ← maybe do
      let found ← argumentList
      clauses
      return found
    match generatorAfter with
    | some found => if 1 < found.plain then raise .bareGenerator else fail
    | none =>
      let found ← argumentList
      comma
      let isGenerator ← maybe do
        discard Phrase.expression.rule
        clauses
      if isGenerator.isSome then raise .bareGenerator
      discard argumentList
      raise (if found.hasUnpacking then .plainAfterUnpacking else .plainAfterNamed)

/-- The arguments of a call. -/
def arguments : Rule Arguments :=
  (do
    let found ← argumentList
    discard <| maybe comma
    ahead (mark ")")
    return found) <|>
  searching badArguments

/-! ## Brackets -/

/-- A tuple in parentheses. -/
def tuple : Rule Tree := do
  mark "("
  let found ← maybe do
    let first ← item
    comma
    return first :: ((← maybe items).getD [])
  mark ")"
  return .tuple (found.getD [])

/-- An expression in parentheses that must not be starred. -/
def badGroup : Rule Tree := do
  mark "("
  (do
      discard starredExpression
      mark ")"
      raise .starredGroup) <|>
    do
      mark "**"
      discard Phrase.expression.rule
      mark ")"
      raise .doubleStarredGroup

/-- An expression in parentheses. -/
def group : Rule Tree :=
  (do
    mark "("
    let e ← yielded <|> Phrase.element.rule
    mark ")"
    return e) <|>
  searching badGroup

/-- A key with its value. -/
def entry : Rule (Option Tree × Tree) := do
  let key ← Phrase.expression.rule
  mark ":"
  return (some key, ← Phrase.expression.rule)

/-- An entry of a dictionary, or a dictionary that is unpacked. -/
def entryOrUnpacking : Rule (Option Tree × Tree) :=
  (do
    mark "**"
    return (none, ← Phrase.operation.rule)) <|>
  entry

/-- A key whose value is starred or missing. -/
def badValue : Rule Unit :=
  (do
    discard Phrase.expression.rule
    mark ":"
    mark "*"
    discard Phrase.operation.rule
    raise .starredValue) <|>
  do
    discard Phrase.expression.rule
    mark ":"
    ahead (oneOf ["\x7d", ","])
    raise .missingValue

/-- What is no entry after proper ones, or no first entry. -/
def badEntries : Rule Unit :=
  (do
    discard (separated entryOrUnpacking)
    comma
    (do
        discard Phrase.expression.rule
        notAhead (mark ":")
        raise .missingColon) <|>
      badValue) <|>
  badValue

/-- A dictionary. -/
def dict : Rule Tree :=
  (do
    mark "\x7b"
    let entries ← maybe do
      let found ← separated entryOrUnpacking
      discard <| maybe comma
      return found
    mark "\x7d"
    return .dict (entries.getD [])) <|>
  do
    mark "\x7b"
    badEntries
    mark "\x7d"
    fail

/-- A set. -/
def set : Rule Tree := do
  mark "\x7b"
  let found ← items
  mark "\x7d"
  return .set found

/-- A comprehension of entries that unpacks dictionaries. -/
def badDictComprehension : Rule Tree := do
  mark "\x7b"
  mark "**"
  discard Phrase.operation.rule
  clauses
  mark "\x7d"
  raise .doubleStarredElement

/-- A comprehension of entries. -/
def dictComprehension : Rule Tree :=
  (do
    mark "\x7b"
    discard entry
    clauses
    mark "\x7d"
    return .dictComprehension) <|>
  searching badDictComprehension

/-- A comprehension in braces. -/
def setComprehension : Rule Tree :=
  (do
    mark "\x7b"
    discard Phrase.element.rule
    clauses
    mark "\x7d"
    return .setComprehension) <|>
  searching badComprehension

/-! ## Values -/

/-- Check texts side by side, of the kind of the first one. -/
def checkTexts (isBytes : Bool) : List TextLiteral → Rule Unit
  | [] => pure ()
  | t :: rest => do
    raiseIf t.fault?
    if t.isBytes ≠ isBytes then raise .mixedTexts
    if t.isFormatted then checkFormatted t
    checkTexts isBytes rest

/-- Texts side by side. -/
def texts : Rule Tree := do
  let first ← text
  let found := first :: (← many text)
  checkTexts first.isBytes found
  return if found.any (·.isFormatted) then .formatted else .text

/-- A number. -/
def number : Rule Tree := do
  match (← token).kind with
  | .number (.unreadable digits) => raise (.longInteger digits)
  | .number n => return .number n
  | _ => fail

/-- A value that no operator belongs to. -/
def atom : Rule Tree :=
  Tree.name <$> name <|>
  Tree.word <$> oneOf ["True", "False", "None"] <|>
  texts <|>
  number <|>
  (do
    ahead (mark "(")
    tuple <|> group <|> generator) <|>
  (do
    ahead (mark "\x7b")
    dict <|> set <|> dictComprehension <|> setComprehension) <|>
  do
    mark "..."
    return .ellipsis

/-- What may follow a value: an attribute, or a call. -/
def trailer (t : Tree) : Rule Tree :=
  (do
    mark "."
    discard name
    return .member) <|>
  (do
    discard generator
    return .call t true) <|>
  do
    mark "("
    let found ← maybe arguments
    mark ")"
    return .call t found.isSome

/-- A value with trailers as often as they fit, so that one more than the number of tokens left is enough
for `fuel`. -/
def trailers (p : Tree → Rule Tree) : Nat → Tree → Rule Tree
  | 0, t => pure t
  | fuel + 1, t => (do trailers p fuel (← p t)) <|> pure t

/-- A value with attributes and calls. -/
def primary : Rule Tree := do
  let t ← atom
  trailers trailer ((← position) + 1) t

/-! ## Functions -/

/-- The default value of a parameter. -/
def defaultValue : Rule Unit :=
  (do
    mark "="
    discard Phrase.expression.rule) <|>
  searching do
    mark "="
    ahead (oneOf [")", ","])
    raise (.parameter .missingDefault)

/-- The end of a parameter: a comma, or the colon after all of them. -/
def endParameter : Rule Unit := comma <|> ahead (mark ":")

/-- A parameter without a default. -/
def plainParameter : Rule Unit := do
  discard name
  endParameter

/-- A parameter with a default. -/
def defaultParameter : Rule Unit := do
  discard name
  defaultValue
  endParameter

/-- A parameter with or without a default. -/
def anyParameter : Rule Unit := do
  discard name
  discard <| maybe defaultValue
  endParameter

/-- The slash after parameters that have no names for callers. -/
def slash : Rule Unit := do
  mark "/"
  endParameter

/-- Parameters without defaults, up to a slash. -/
def plainToSlash : Rule Unit := do
  discard (many1 plainParameter)
  slash

/-- Parameters of which the last have defaults, up to a slash. -/
def defaultsToSlash : Rule Unit := do
  discard (many plainParameter)
  discard (many1 defaultParameter)
  slash

/-- Parameters up to a slash. -/
def toSlash : Rule Unit := plainToSlash <|> defaultsToSlash

/-- A parameter behind two stars that has a default, or that something follows. -/
def badDoubleStar : Rule Unit := do
  mark "**"
  discard name
  (do
      mark "="
      raise (.parameter .defaultOfDoubleStar)) <|>
    do
      comma
      discard name <|> discard (oneOf ["*", "**", "/"])
      raise (.parameter .afterDoubleStar)

/-- A parameter behind two stars. -/
def doubleStarParameter : Rule Unit :=
  searching badDoubleStar <|> do
    mark "**"
    plainParameter

/-- A star among parameters that should not be there. -/
def badStar : Rule Unit := do
  mark "*"
  (do
      mark ":" <|> do
        comma
        discard (oneOf [":", "**"])
      raise (.parameter .starAlone)) <|>
    (do
      discard name
      mark "="
      raise (.parameter .defaultOfStar)) <|>
    do
      plainParameter <|> comma
      discard (many anyParameter)
      mark "*"
      plainParameter <|> comma
      raise (.parameter .starTwice)

/-- A star, and the parameters after it. -/
def starParameters : Rule Unit :=
  searching badStar <|>
  (do
    mark "*"
    plainParameter
    discard (many anyParameter)
    discard (maybe doubleStarParameter)) <|>
  (do
    mark "*"
    comma
    discard (many1 anyParameter)
    discard (maybe doubleStarParameter)) <|>
  doubleStarParameter

/-- Parameters in an order that they cannot have. -/
def badParameters : Rule Unit :=
  (do
    discard (many plainParameter)
    defaultsToSlash <|> discard (many1 defaultParameter)
    plainParameter
    raise (.parameter .plainAfterDefault)) <|>
  (do
    discard (many plainParameter)
    mark "("
    discard (separated name)
    discard (maybe comma)
    mark ")"
    raise (.parameter .parenthesized)) <|>
  (do
    mark "/"
    comma
    raise (.parameter .slashFirst)) <|>
  (do
    toSlash
    discard (many anyParameter)
    mark "/"
    raise (.parameter .slashTwice)) <|>
  (do
    discard (maybe toSlash)
    discard (many anyParameter)
    mark "*"
    comma <|> plainParameter
    discard (many anyParameter)
    mark "/"
    raise (.parameter .slashAfterStar)) <|>
  do
    discard (many1 anyParameter)
    mark "/"
    mark "*"
    raise (.parameter .missingComma)

/-- The parameters of a function. -/
def parameters : Rule Unit :=
  searching badParameters <|>
  (do
    plainToSlash
    discard (many plainParameter)
    discard (many defaultParameter)
    discard (maybe starParameters)) <|>
  (do
    defaultsToSlash
    discard (many defaultParameter)
    discard (maybe starParameters)) <|>
  (do
    discard (many1 plainParameter)
    discard (many defaultParameter)
    discard (maybe starParameters)) <|>
  (do
    discard (many1 defaultParameter)
    discard (maybe starParameters)) <|>
  starParameters

/-- A function without a name. -/
def function : Rule Tree := do
  mark "lambda"
  discard (maybe parameters)
  mark ":"
  discard Phrase.expression.rule
  return .function

/-! ## Phrases -/

/-- A value, perhaps behind a sign or raised to a power. -/
def factor : Rule Tree :=
  (do
    let sign ← oneOf ["+", "-", "~"]
    let operand ← Phrase.factor.rule
    return if sign == "~" then .operation else .signed operand) <|>
  do
    let base ← (do
        mark "await"
        discard primary
        return .awaited) <|>
      primary
    (do
        mark "**"
        discard Phrase.factor.rule
        return .operation) <|>
      pure base

/-- Factors with operators between. How these bind does not matter here. -/
def operation : Rule Tree := do
  let first ← Phrase.factor.rule
  let others ← many do
    return (← oneOf ["|", "^", "&", "<<", ">>", "+", "-", "*", "/", "//", "%", "@"],
      ← Phrase.factor.rule)
  return match others with
  | [] => first
  | [(sign, second)] => if sign == "+" || sign == "-" then .sum first second else .operation
  | _ => .operation

/-- The operator of a comparison, and whether it asks for membership. -/
def comparison : Rule Bool :=
  (do
    let word ← oneOf ["==", "!=", "<=", "<", ">=", ">", "in"]
    return word == "in") <|>
  (do
    mark "not"
    mark "in"
    return false) <|>
  do
    mark "is"
    discard <| maybe (mark "not")
    return false

/-- Operations with comparisons between, perhaps negated. -/
def inversion : Rule Tree :=
  (do
    mark "not"
    discard Phrase.inversion.rule
    return .operation) <|>
  do
    let first ← Phrase.operation.rule
    let others ← many do
      let isMembership ← comparison
      discard Phrase.operation.rule
      return isMembership
    return match others with
    | [] => first
    | isMembership :: _ => .comparison isMembership first

/-- Conditions joined by words. -/
def disjunction : Rule Tree := do
  let first ← Phrase.inversion.rule
  let others ← many do
    discard (oneOf ["and", "or"])
    Phrase.inversion.rule
  return if others.isEmpty then first else .operation

/-- Words that have a meaning at the beginning of a line only. Names that they begin with are taken for
them, too. -/
def lineWords : List String := ["_", "case", "match"]

/-- A name beside which no comma can be missing. -/
def freeName : Rule Unit :=
  (do
    discard name
    discard text) <|>
  do
    let s ← name
    if !lineWords.any (s.isPrefixOf ·) then fail

/-- An expression that another one follows, or a condition without an alternative. -/
def badExpression : Rule Tree := do
  let neighbours ← maybe do
    notAhead freeName
    let first ← Phrase.disjunction.rule
    discard <| plainly Phrase.expression.rule
    return (first, ← depth)
  match neighbours with
  | some (first, depth) =>
    if first.isBareCall || depth = 0 then fail else raise .missingComma
  | none =>
    discard Phrase.disjunction.rule
    mark "if"
    discard Phrase.disjunction.rule
    notAhead (oneOf ["else", ":"])
    raise .missingElse

/-- A condition, perhaps with an alternative, or a function. -/
def plainExpression : Rule Tree :=
  (do
    discard Phrase.disjunction.rule
    mark "if"
    discard Phrase.disjunction.rule
    mark "else"
    discard Phrase.expression.rule
    return .conditional) <|>
  Phrase.disjunction.rule <|>
  function

/-- A call without parentheses. Where a comma can be missing behind the name, what follows has been read
before without searching. The number of tokens left is enough for `fuel`. -/
def bareCallFrom : Nat → Rule Tree
  | 0 => fail
  | fuel + 1 => do
    let isFree := (← peek freeName).isSome
    let word ← name
    notAhead (mark "(")
    discard starredOperation <|> discard (if isFree then Phrase.expression.rule
      else after .expression (badExpression <|> bareCallFrom fuel <|> plainExpression))
    discard <| many do
      comma
      starExpression
    if (Tree.name word).isBareCall then raise (.missingParentheses word) else fail

/-- A call without parentheses. -/
def bareCall : Rule Tree := do bareCallFrom (← position)

/-- An expression. -/
def expression : Rule Tree := searching badExpression <|> searching bareCall <|> plainExpression

/-- An expression that a value is assigned to. -/
def badElement : Rule Tree :=
  (do
    let e ← Phrase.expression.rule
    mark ":="
    discard Phrase.expression.rule
    raise (.walrusAfter e.kindName)) <|>
  (do
    discard name
    mark "="
    discard Phrase.operation.rule
    notAhead (oneOf ["=", ":="])
    raise .equalsAfterName) <|>
  do
    notAhead (discard tuple <|> discard generator <|> discard (oneOf ["True", "None", "False"]))
    let e ← Phrase.operation.rule
    mark "="
    discard Phrase.operation.rule
    notAhead (oneOf ["=", ":="])
    raise (.equalsAfter e.kindName)

/-- An element of a bracket. -/
def element : Rule Tree := assignment <|> searching badElement <|> do
  let e ← Phrase.expression.rule
  notAhead (mark ":=")
  return e

/-- The target of a clause that is a value with a trailer: the trailers before the last one, as long as
more may follow. -/
def targetValue : Rule Tree := do
  let t ← atom
  targetGoesOn
  trailers (fun t => do
    let t ← trailer t
    targetGoesOn
    return t) ((← position) + 1) t

/-- The target of a clause. -/
def target : Rule Tree :=
  (do
    discard targetValue
    mark "."
    discard name
    notAhead targetGoesOn
    return .member) <|>
  Tree.name <$> name <|>
  (do
    mark "("
    let t ← Phrase.target.rule
    mark ")"
    return t) <|>
  do
    mark "("
    let found ← maybe do
      let first ← Phrase.starTarget.rule
      (do
          let others ← many1 do
            comma
            Phrase.starTarget.rule
          discard <| maybe comma
          return first :: others) <|>
        do
          comma
          return [first]
    mark ")"
    return .tuple (found.getD [])

/-- The target of a clause, perhaps behind a star. -/
def starTarget : Rule Tree :=
  (do
    mark "*"
    notAhead (mark "*")
    return .starred (← Phrase.starTarget.rule)) <|>
  Phrase.target.rule

/-- The rule of a phrase. -/
def phrase : Phrase → Rule Tree
  | .factor => factor
  | .operation => operation
  | .inversion => inversion
  | .disjunction => disjunction
  | .expression => expression
  | .element => element
  | .target => target
  | .starTarget => starTarget

/-! ## Texts -/

/-- Expressions with commas between. -/
def expressions : Rule Tree := do
  let first ← Phrase.expression.rule
  let others ← many do
    comma
    Phrase.expression.rule
  let last ← maybe comma
  return if others.isEmpty && last.isNone then first else .tuple (first :: others)

/-- All of a text. -/
def wholeText : Rule Tree := do
  let t ← expressions
  discard <| many (kind .lineEnd)
  kind .finish
  return t

/-- What a text in braces begins with. -/
def innerText : Rule Tree := starExpressions

end SinkAudit.Expression
