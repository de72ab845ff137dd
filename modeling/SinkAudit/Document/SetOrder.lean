import SinkAudit.Document.Literal

/-!
# The order of the members of a set

A set of a YAML document (`!!set`) is filled member by member, in the order of the document, but it is
written in an order of its own. That order shows: `_comparable` compares two values by their texts, so
that `!!set {1, 2}` and `!!set {2, 1}` contradict each other or agree by how each of them is written,
and an error that shows a value shows its members in that order.

For small whole numbers the order hardly depends on how the set was filled. For texts it depends on the
seed of the hash function, which a process draws when it starts. So the order is a parameter of loading
(`SetOrder`), of which nothing is known but that it loses and adds nothing, and the results about loading
are for every such order. `Value.set` itself holds the members as the set lists them, which makes the
literal of a value exact.

- `SetOrder`: how sets list the members that were put into them; `SetOrder.canonical`: shorter literals
  first, so that sets of the same literals are listed alike.
- `Value.listed`: a value whose sets, however deep they lie, list their members in an order.
-/

namespace SinkAudit

/-- The order in which a set lists the members that were put into it one after the other. It is a
function of that sequence, since a process does not change its hash function. -/
structure SetOrder where
  list : List Scalar → List Scalar
  /-- Nothing is lost and nothing added. -/
  perm : ∀ items, (list items).Perm items

namespace SetOrder

/-- May one member stand before another in the canonical order? The shorter literal stands first, and of
two that are equally long the one that is smaller as a text. -/
def mayPrecede (s t : Scalar) : Bool :=
  s.literal.length < t.literal.length
    || s.literal.length == t.literal.length && s.literal ≤ t.literal

/-- Members in the order of their literals, in whatever order they came. -/
def canonical : SetOrder :=
  ⟨fun items => items.mergeSort mayPrecede, fun items => items.mergeSort_perm mayPrecede⟩

end SetOrder

namespace Value

mutual

/-- A value whose sets list their members in the given order, however deep they lie. -/
def listed (order : SetOrder) : Value → Value
  | scalar s => scalar s
  | list items => list (itemsListed order items)
  | set items => set (order.list items)
  | mapping entries => mapping (entriesListed order entries)

/-- The items of a list, with their sets so listed. -/
def itemsListed (order : SetOrder) : List Value → List Value
  | [] => []
  | v :: rest => v.listed order :: itemsListed order rest

/-- The entries of a mapping, with their sets so listed. Keys are scalars and hold no sets. -/
def entriesListed (order : SetOrder) : List (Scalar × Value) → List (Scalar × Value)
  | [] => []
  | (k, v) :: rest => (k, v.listed order) :: entriesListed order rest

end

end Value

end SinkAudit
