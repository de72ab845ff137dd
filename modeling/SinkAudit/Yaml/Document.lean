import SinkAudit.Yaml.Content
import SinkAudit.Yaml.Node

/-!
# From nodes to values

The last of the three stages of `yaml.safe_load`. Values are made breadth first: the scalars of a
collection at once, its collections after all that were met before. A node that is met again is not made
again, so that a document may refer to itself. The order decides which of several errors is reported, and
what a merge key finds in a mapping that is itself still to be merged.

A document that refers to itself is an infinite tree. A `Value` is finite, so what is made stays a graph
(`Made`) until it is unfolded, down to a depth that the caller chooses. A configuration is looked at two
levels deep: its entries, and those under `config`. Whatever lies deeper is refused as nested, so nothing
is lost.

- `chainLimit`: how many nodes may stand for each other in a row.
- `Make.flatten`: merge keys are replaced by the entries of the mappings that they name.
- `Made`: the value of a node, other nodes standing for themselves.
- `Maker.run`: the values of all nodes that the root reaches, or the first error.
- `Maker.unfold`: a value down to some depth; deeper collections are left empty.
- `load`: the value of the only document of a text.
-/

namespace SinkAudit.Yaml

/-- The value of a node. -/
inductive Made where
  | scalar (s : Scalar)
  | list (items : List Nat)
  | set (items : List Scalar)
  | mapping (entries : List (Scalar × Nat))

/-- Nodes, the values made of them, and the collections whose content is still to be made. -/
structure Maker where
  graph : Graph
  made : Array (Option Made)
  waiting : List Nat

/-- How many mappings may stand in each other's merge keys, or for each other, in a row.

As for `Json.depthLimit`, this is the recursion limit of the interpreter less the calls that are open
when a command reads a file, with one call for each mapping. It belongs to the command line and not to the
notation. A mapping that stands for itself, by an equals sign as a key, is a chain without end, and always
meets the limit. -/
def chainLimit : Nat := 980

/-- Steps that make values, or fail. -/
abbrev Make := StateT Maker (Except Error)

namespace Make

/-- Fail. -/
def fail {α : Type} (e : Error) : Make α := throw e

/-- A node. Numbers of nodes come from the graph, so there always is one. -/
def node (i : Nat) : Make Node := do
  match (← get).graph[i]? with
  | some n => return n
  | none => fail .malformed

/-- Replace a node. -/
def setNode (i : Nat) (n : Node) : Make Unit :=
  modify fun m => { m with graph := m.graph.setIfInBounds i n }

/-- Record the value of a node. -/
def setMade (i : Nat) (v : Made) : Make Unit :=
  modify fun m => { m with made := m.made.setIfInBounds i (some v) }

/-! ## Merge keys -/

/-- The entries of a mapping. -/
def entriesOf (i : Nat) : Make (List (Nat × Nat)) := do
  match ← node i with
  | .mapping _ es => return es
  | _ => fail .malformed

/-- Set the entries of a mapping. -/
def setEntries (i : Nat) (es : List (Nat × Nat)) : Make Unit := do
  match ← node i with
  | .mapping t _ => setNode i (.mapping t es)
  | _ => return

/-- The entries of a mapping after its own merge keys are resolved. -/
def flatEntries (flatten : Nat → Make Unit) (i : Nat) : Make (List (Nat × Nat)) := do
  match ← node i with
  | .mapping .. =>
    flatten i
    entriesOf i
  | _ => fail .malformed

/-- The entries that a merge key stands for: those of a mapping, or of several, the last one first. -/
def mergedEntries (flatten : Nat → Make Unit) (i : Nat) : Make (List (Nat × Nat)) := do
  match ← node i with
  | .mapping .. => flatEntries flatten i
  | .sequence _ items => return (← items.mapM (flatEntries flatten)).reverse.flatten
  | .scalar .. => fail .malformed

/-- Resolve the merge keys among the entries of a mapping that remain, of which the first ones are
`kept`: what they stand for, and what is kept. A key that is an equals sign becomes a text. The merge key
is dropped from the mapping before what it names is looked at, so that a mapping which merges itself is
met without it. -/
def flattenEntries (flatten : Nat → Make Unit) (i : Nat) (kept : List (Nat × Nat)) :
    List (Nat × Nat) → Make (List (Nat × Nat) × List (Nat × Nat))
  | [] => return ([], kept)
  | (k, v) :: rest => do
    let key ← node k
    if key.tag = .merge then
      setEntries i (kept ++ rest)
      let merged ← mergedEntries flatten v
      let (more, kept) ← flattenEntries flatten i kept rest
      return (merged ++ more, kept)
    else
      match key with
      | .scalar .value text => setNode k (.scalar .str text)
      | _ => pure ()
      flattenEntries flatten i (kept ++ [(k, v)]) rest

/-- Resolve the merge keys of a mapping: what they stand for comes before its own entries. Mappings lie
in each other's merge keys at most `depth` deep. -/
def flatten : Nat → Nat → Make Unit
  | 0, _ => fail .tooDeep
  | depth + 1, i => do
    let (merged, kept) ← flattenEntries (flatten depth) i [] (← entriesOf i)
    setEntries i (merged ++ kept)

/-! ## Values -/

/-- The scalar that a mapping with an equals sign as a key stands for, over at most `depth` mappings. -/
def standIn? : Nat → Nat → Make (Option Text)
  | 0, _ => fail .tooDeep
  | depth + 1, i => do
    match ← node i with
    | .scalar _ text => return some text
    | .sequence .. => return none
    | .mapping _ entries =>
      for (k, v) in entries do
        if (← node k).tag = .value then return ← standIn? depth v
      return none

/-- Make the value of a scalar type. -/
def makeScalar (i : Nat) (tag : Tag) : Make Made := do
  match ← standIn? chainLimit i with
  | none => fail .malformed
  | some text =>
    match tag, ← node i with
    | .timestamp, .mapping .. => fail .notTimeText
    | _, _ => match scalarValue tag text with
      | .ok s => return .scalar s
      | .error e => fail e

/-- Make the value of a node, unless it was made before. Collections wait for their content. -/
def make (i : Nat) : Make Made := do
  match ((← get).made[i]?).join with
  | some v => return v
  | none =>
    let tag := (← node i).tag
    let wait (v : Made) : Make Made := do
      modify fun m => { m with waiting := m.waiting ++ [i] }
      return v
    let v ← match tag with
      | .seq | .omap | .pairs => wait (.list [])
      | .map => wait (.mapping [])
      | .set => wait (.set [])
      | _ => makeScalar i tag
    setMade i v
    return v

/-- The entries of a mapping, keys and values made. Keys are scalars; a key that comes again changes
the value of the first. -/
def makeEntries (i : Nat) : Make (List (Scalar × Nat)) := do
  match ← node i with
  | .mapping .. =>
    flatten chainLimit i
    let entries ← (← entriesOf i).mapM fun (k, v) => do
      match ← make k with
      | .scalar key =>
        let _ ← make v
        return (key, v)
      | _ => fail .malformed
    return (OrderedMap.ofList entries).toList
  | _ => fail .malformed

/-- Make the pairs of a list of mappings of one entry each. -/
def makePairs (i : Nat) : Make Unit := do
  match ← node i with
  | .sequence _ items =>
    for item in items do
      match ← node item with
      | .mapping _ [(k, v)] =>
        let _ ← make k
        let _ ← make v
      | _ => fail .malformed
  | _ => fail .malformed

/-- Make the content of a collection. -/
def fill (i : Nat) : Make Unit := do
  let n ← node i
  match n.tag with
  | .map => setMade i (.mapping (← makeEntries i))
  | .set => setMade i (.set ((← makeEntries i).map Prod.fst))
  | .omap | .pairs => makePairs i
  | _ => match n with
    | .sequence _ items =>
      for item in items do
        let _ ← make item
      setMade i (.list items)
    | _ => fail .malformed

/-- Fill the collections that wait, first come first. Each node waits once. -/
def fillAll : Nat → Make Unit
  | 0 => return
  | fuel + 1 => do
    match (← get).waiting with
    | [] => return
    | i :: rest =>
      modify fun m => { m with waiting := rest }
      fill i
      fillAll fuel

end Make

/-- The value of a node, down to some depth. -/
def unfold (made : Array (Option Made)) (depth i : Nat) : Value :=
  match (made[i]?).join, depth with
  | none, _ => .scalar .null
  | some (.scalar s), _ => .scalar s
  | some (.set items), _ => .set items
  | some (.list _), 0 => .list []
  | some (.mapping _), 0 => .mapping []
  | some (.list items), depth + 1 => .list (items.map (unfold made depth))
  | some (.mapping entries), depth + 1 =>
    .mapping (entries.map fun (k, v) => (k, unfold made depth v))

/-- The value of a root in a graph, down to some depth. -/
def valueOf (graph : Graph) (depth root : Nat) : Except Error Value :=
  let steps : Make Unit := do
    let _ ← Make.make root
    Make.fillAll (graph.size + 1)
  match steps.run ⟨graph, Array.replicate graph.size none, []⟩ with
  | .ok (_, m) => .ok (unfold m.made depth root)
  | .error e => .error e

/-- The value of the only document of a text, down to some depth; null if the text has none. -/
def load (depth : Nat) (cs : List Char) : Except Error Value :=
  match Graph.ofTokens (Tokens.ofChars cs) with
  | .error e => .error e
  | .ok (_, none) => .ok (.scalar .null)
  | .ok (graph, some root) => valueOf graph depth root

end SinkAudit.Yaml
