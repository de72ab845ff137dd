import SinkAudit.Yaml.Lexer
import SinkAudit.Yaml.Tag

/-!
# From tokens to nodes

The second of the three stages of `yaml.safe_load`, between the tokens and the values. A document is a
graph: an alias stands for the node of its anchor, which may even lie around it. Nodes therefore refer to
each other by number, and a collection is added to the graph before its content, which may refer back to
it.

- `Node`, `Graph`: nodes, which refer to each other by number.
- `Builder`: the tokens that remain, and the nodes and anchors so far.
- `depthLimit`: how deep collections may lie in each other.
- `buildNode` and the readers around it: one for each kind of collection. Each call takes one from
  `fuel`; a token is taken at least every fourth call, so that `document` gives them enough. `room` is
  how many collections may still lie in each other.
- `Graph.ofTokens`: the graph of the only document of a text, if there is one, and its root.
-/

namespace SinkAudit.Yaml

/-- A node. -/
inductive Node where
  | scalar (tag : Tag) (text : Text)
  | sequence (tag : Tag) (items : List Nat)
  | mapping (tag : Tag) (entries : List (Nat × Nat))

/-- The tag of a node. -/
def Node.tag : Node → Tag
  | scalar t _ => t
  | sequence t _ => t
  | mapping t _ => t

/-- Nodes by number. -/
abbrev Graph := Array Node

/-- The state between two tokens. Tokens are read lazily: the fault in which they end counts only when
it is reached, and a fault of the grammar before it is reported in its place. -/
structure Builder where
  tokens : List Token
  /-- The fault in which the tokens end. -/
  fault : Option Error
  graph : Graph
  anchors : List (String × Nat)
  handles : List (String × String)

/-- Steps that take tokens and make nodes, or fail. -/
abbrev Build := StateT Builder (Except Error)

namespace Build

/-- Fail. -/
def fail {α : Type} (e : Error) : Build α := throw e

/-- The next token, if the text has not ended. -/
def peek : Build (Option Token) := do
  let b ← get
  match b.tokens, b.fault with
  | t :: _, _ => return some t
  | [], some e => fail e
  | [], none => return none

/-- Past the next token. -/
def next : Build Unit := modify fun b => { b with tokens := b.tokens.drop 1 }

/-- Past the next token if it is one of a kind; whether it was. -/
def take? (p : Token → Bool) : Build Bool := do
  if (← peek).any p then
    next
    return true
  else return false

/-- Is the next token of a kind? The end of the text is of none. -/
def isAt (p : Token → Bool) : Build Bool := return (← peek).any p

/-- Add a node. -/
def addNode (n : Node) : Build Nat := do
  let b ← get
  set { b with graph := b.graph.push n }
  return b.graph.size

/-- Replace a node. -/
def setNode (i : Nat) (n : Node) : Build Unit :=
  modify fun b => { b with graph := b.graph.setIfInBounds i n }

/-- Name a node. No name is given twice. -/
def bind (anchor : Option String) (i : Nat) : Build Unit := do
  match anchor with
  | none => return
  | some name =>
    if ((← get).anchors.lookup name).isSome then fail .malformed
    else modify fun b => { b with anchors := (name, i) :: b.anchors }

/-- The node of a scalar that is not written. -/
def emptyNode : Build Nat := addNode (.scalar .null [])

end Build

open Build

/-! ## Kinds of tokens -/

/-- A mark of a key. -/
def isKey : Token → Bool | .key => true | _ => false

/-- A mark of a value. -/
def isValue : Token → Bool | .value => true | _ => false

/-- The end of a block collection. -/
def isBlockEnd : Token → Bool | .blockEnd => true | _ => false

/-- A mark of a block entry. -/
def isBlockEntry : Token → Bool | .blockEntry => true | _ => false

/-- A comma. -/
def isFlowEntry : Token → Bool | .flowEntry => true | _ => false

/-- The end of a flow sequence. -/
def isFlowSequenceEnd : Token → Bool | .flowSequenceEnd => true | _ => false

/-- The end of a flow mapping. -/
def isFlowMappingEnd : Token → Bool | .flowMappingEnd => true | _ => false

/-! ## Nodes -/

/-- Anchor and tag of a node, in either order. -/
def properties : Build (Option String × Option (Option String × String)) := do
  -- an anchor and a tag come in either order, each at most once
  match ← peek with
  | some (.anchor name) =>
    next
    match ← peek with
    | some (.tag h s) =>
      next
      return (some name, some (h, s))
    | _ => return (some name, none)
  | some (.tag h s) =>
    next
    match ← peek with
    | some (.anchor name) =>
      next
      return (some name, some (h, s))
    | _ => return (none, some (h, s))
  | _ => return (none, none)

/-- The full tag of a written one. A lone exclamation mark counts as none, but makes a scalar plain. -/
def resolveTag (written : Option (Option String × String)) : Build (Option String) := do
  match written with
  | none => return none
  | some (none, suffix) => return some suffix
  | some (some handle, suffix) => match (← get).handles.lookup handle with
    | some base => return some (base ++ suffix)
    | none => fail .malformed

/-- The tag of a collection. -/
def collectionTag (default : Tag) (uri : Option String) : Tag :=
  match uri with
  | none | some "!" => default
  | some uri => Tag.ofUri uri

/-- The tag of a scalar. -/
def scalarTag (uri : Option String) (text : Text) (plain : Bool) : Tag :=
  match uri with
  | none => if plain then Tag.ofPlain text else .str
  | some "!" => Tag.ofPlain text
  | some uri => Tag.ofUri uri

/-- How deep collections may lie in each other.

As for `Json.depthLimit`, this is the recursion limit of the interpreter less the calls that are open
when a command reads a file. A level of nesting takes two calls here, hence about half the number. It
belongs to the command line and not to the notation. -/
def depthLimit : Nat := 490

/-- How many collections may lie in each other inside the next one, which fails if there is no room
for it. -/
def roomInside : Nat → Build Nat
  | 0 => fail .tooDeep
  | room + 1 => return room

mutual

/-- Build the next node: an alias, or anchor and tag and then what they belong to. `block` admits block
collections, and `indentless` a block sequence that is not indented deeper than the mapping around it. -/
def buildNode (room : Nat) (block indentless : Bool) : Nat → Build Nat
  | 0 => fail .malformed
  | fuel + 1 => do
    if let some (.alias name) ← peek then
      next
      match (← get).anchors.lookup name with
      | some i => return i
      | none => fail .malformed
    else
      -- an alias stands for a node that was anchored before; anything else is a node of its own
      let (anchor, written) ← properties
      let uri ← resolveTag written
      match ← peek with
      | some (.scalar text plain) =>
        next
        named anchor (.scalar (scalarTag uri text plain) text)
      | some .flowSequenceStart =>
        next
        buildSequence room anchor (collectionTag .seq uri) (flowItems · true fuel)
      | some .flowMappingStart =>
        next
        buildMapping room anchor (collectionTag .map uri) (flowEntries · true fuel)
      | some .blockEntry =>
        if indentless then
          buildSequence room anchor (collectionTag .seq uri) (indentlessItems · fuel)
        else written? anchor uri
      | some .blockSequenceStart =>
        if block then
          next
          buildSequence room anchor (collectionTag .seq uri) (blockItems · fuel)
        else written? anchor uri
      | some .blockMappingStart =>
        if block then
          next
          buildMapping room anchor (collectionTag .map uri) (blockEntries · fuel)
        else written? anchor uri
      | _ => written? anchor uri
termination_by structural fuel => fuel
where
  /-- Add a node under its anchor. -/
  named (anchor : Option String) (n : Node) : Build Nat := do
    let i ← addNode n
    bind anchor i
    return i
  /-- A node of which nothing but an anchor or a tag is written. -/
  written? (anchor uri : Option String) : Build Nat :=
    if anchor.isNone && uri.isNone then fail .malformed
    else named anchor (.scalar (scalarTag uri [] (uri.isNone || uri == some "!")) [])
  /-- A sequence, which its items may refer to. -/
  buildSequence (room : Nat) (anchor : Option String) (tag : Tag)
      (items : Nat → Build (List Nat)) : Build Nat := do
    let room ← roomInside room
    let i ← named anchor (.sequence tag [])
    setNode i (.sequence tag (← items room))
    return i
  /-- A mapping, which its entries may refer to. -/
  buildMapping (room : Nat) (anchor : Option String) (tag : Tag)
      (entries : Nat → Build (List (Nat × Nat))) : Build Nat := do
    let room ← roomInside room
    let i ← named anchor (.mapping tag [])
    setNode i (.mapping tag (← entries room))
    return i

/-- Build the next node, unless a token of a kind stands in its place. -/
def nodeUnless (room : Nat) (stop : Token → Bool) (block indentless : Bool) : Nat → Build Nat
  | 0 => fail .malformed
  | fuel + 1 => do
    if (← isAt stop) || (← peek).isNone then emptyNode else buildNode room block indentless fuel
termination_by structural fuel => fuel

/-- The items of a block sequence. -/
def blockItems (room : Nat) : Nat → Build (List Nat)
  | 0 => fail .malformed
  | fuel + 1 => do
    if ← take? isBlockEntry then
      let item ← nodeUnless room (fun t => isBlockEntry t || isBlockEnd t) true false fuel
      return item :: (← blockItems room fuel)
    else if ← take? isBlockEnd then return []
    else fail .malformed
termination_by structural fuel => fuel

/-- The items of a block sequence that ends with the entry around it. -/
def indentlessItems (room : Nat) : Nat → Build (List Nat)
  | 0 => fail .malformed
  | fuel + 1 => do
    if ← take? isBlockEntry then
      let stop (t : Token) := isBlockEntry t || isKey t || isValue t || isBlockEnd t
      let item ← nodeUnless room stop true false fuel
      return item :: (← indentlessItems room fuel)
    else return []
termination_by structural fuel => fuel

/-- The entries of a block mapping. -/
def blockEntries (room : Nat) : Nat → Build (List (Nat × Nat))
  | 0 => fail .malformed
  | fuel + 1 => do
    if ← take? isKey then
      let stop (t : Token) := isKey t || isValue t || isBlockEnd t
      let key ← nodeUnless room stop true true fuel
      let value ←
        if ← take? isValue then nodeUnless room stop true true fuel else emptyNode
      return (key, value) :: (← blockEntries room fuel)
    else if ← take? isBlockEnd then return []
    else fail .malformed
termination_by structural fuel => fuel

/-- The items of a flow sequence. An item may be a mapping of one entry, without braces. -/
def flowItems (room : Nat) (first : Bool) : Nat → Build (List Nat)
  | 0 => fail .malformed
  | fuel + 1 => do
    if ← take? isFlowSequenceEnd then return []
    else
      unless first do
        unless ← take? isFlowEntry do fail .malformed
      if ← take? isKey then
        -- a key in a sequence opens a mapping of one entry, which is one level deeper
        let inner ← roomInside room
        let i ← addNode (.mapping .map [])
        let stop (t : Token) := isFlowEntry t || isFlowSequenceEnd t
        let key ← nodeUnless inner (fun t => isValue t || stop t) false false fuel
        let value ← if ← take? isValue then nodeUnless inner stop false false fuel else emptyNode
        setNode i (.mapping .map [(key, value)])
        return i :: (← flowItems room false fuel)
      else if ← take? isFlowSequenceEnd then return []
      else
        let item ← buildNode room false false fuel
        return item :: (← flowItems room false fuel)
termination_by structural fuel => fuel

/-- The entries of a flow mapping. A key may stand alone. -/
def flowEntries (room : Nat) (first : Bool) : Nat → Build (List (Nat × Nat))
  | 0 => fail .malformed
  | fuel + 1 => do
    if ← take? isFlowMappingEnd then return []
    else
      unless first do
        unless ← take? isFlowEntry do fail .malformed
      let stop (t : Token) := isFlowEntry t || isFlowMappingEnd t
      if ← take? isKey then
        let key ← nodeUnless room (fun t => isValue t || stop t) false false fuel
        let value ← if ← take? isValue then nodeUnless room stop false false fuel else emptyNode
        return (key, value) :: (← flowEntries room false fuel)
      else if ← take? isFlowMappingEnd then return []
      else
        let key ← buildNode room false false fuel
        let value ← emptyNode
        return (key, value) :: (← flowEntries room false fuel)
termination_by structural fuel => fuel

end

/-! ## Documents -/

/-- The handles that are known without directives. -/
def standardHandles : List (String × String) := [("!", "!"), ("!!", standardBase)]

/-- Past the directives of a document: its handles. A version stands once and is of the first major
number, and no handle is defined twice. -/
def directives (versioned : Bool) (handles : List (String × String)) :
    Nat → Build (List (String × String))
  | 0 => fail .malformed
  | fuel + 1 => do
    match ← peek with
    | some (.directive d) =>
      next
      match d with
      | .version major =>
        if versioned || major != 1 then fail .malformed else directives true handles fuel
      | .handle name base =>
        if (handles.lookup name).isSome then fail .malformed
        else directives versioned ((name, base) :: handles) fuel
      | .other => directives versioned handles fuel
    | _ => return handles ++ standardHandles

/-- Past the marks of ended documents. -/
def documentEnds : Nat → Build Unit
  | 0 => return
  | fuel + 1 => do
    match ← peek with
    | some .documentEnd =>
      next
      documentEnds fuel
    | _ => return

/-- Does the token end what a document may hold? -/
def isDocumentEdge : Token → Bool
  | .directive _ | .documentStart | .documentEnd => true
  | _ => false

/-- The document of a text: its root, unless the text has none. It may do without a start mark if no
directive precedes it. No second one may follow, and a fault at the start of one is found first. -/
def document : Build (Option Nat) := do
  let fuel := 4 * (← get).tokens.length + 8
  match ← peek with
  | none => return none
  | some t =>
    let explicit := match t with
      | .directive _ | .documentStart => true
      | _ => false
    let root ←
      if explicit then
        let handles ← directives false [] fuel
        modify fun b => { b with handles }
        match ← peek with
        | some .documentStart => next
        | _ => fail .malformed
        nodeUnless depthLimit isDocumentEdge true false fuel
      else buildNode depthLimit true false fuel
    documentEnds fuel
    match ← peek with
    | none => return some root
    -- a second document is an error, but the directives before it are read first
    | some _ =>
      let _ ← directives false [] fuel
      let _ ← peek
      fail .malformed

/-- The graph of the only document of a text, and its root. -/
def Graph.ofTokens (tokens : Tokens) : Except Error (Graph × Option Nat) :=
  match document.run ⟨tokens.items, tokens.fault, #[], [], standardHandles⟩ with
  | .ok (root, b) => .ok (b.graph, root)
  | .error e => .error e

end SinkAudit.Yaml
