import SinkAudit.Field
import SinkAudit.OrderedMap

/-!
# Outcomes of a validation

An outcome lists messages under the names of fields (`ValidationOutcome`). Messages of a field stand in the
order in which they were found and are never merged; a field with an empty list is as valid as an absent one.
Fields stand in the order in which they were first mentioned, except in a report, where the known ones come
first in an order of their own.

Lists of messages are values here. An outcome does not share a list with another outcome, or with a second
field of its own, so that appending to one never changes another; the operations of the program make copies
of the lists that they are given, and what a caller does with lists of its own is not looked at.

- `add`, `messagesFor`, `merge`: the operations.
- `isValid`, `invalidFields`, `violationCount`, `report`: the views. All of them are computed from the
  messages; nothing is counted along the way.
-/

namespace SinkAudit

/-- Messages under the names of fields. The fields need not be known ones, and no list of messages is shared
between two of them. -/
structure Outcome where
  errors : OrderedMap String (List String)

namespace Outcome

/-- The outcome without messages. -/
def empty : Outcome := ⟨.empty⟩

instance : Inhabited Outcome := ⟨empty⟩

/-- The messages of a field. -/
def messagesFor (o : Outcome) (field : String) : List String := (o.errors.get? field).getD []

/-- Append a message to those of a field (`add`). A field that has none yet comes behind the others. -/
def add (o : Outcome) (field message : String) : Outcome :=
  ⟨o.errors.insert field (o.messagesFor field ++ [message])⟩

/-- Append messages to those of a field; a field that gets none is not mentioned. -/
def addAll (o : Outcome) (field : String) (messages : List String) : Outcome :=
  messages.foldl (fun o m => o.add field m) o

/-- Append all messages of another outcome, field by field and one by one, as each half of `merge` does. -/
def absorb (o other : Outcome) : Outcome :=
  other.errors.toList.foldl (fun o e => o.addAll e.1 e.2) o

/-- The messages of two outcomes, those of the first before those of the second in each field. The program
adds both to a fresh outcome, so that neither is changed and empty lists are lost. -/
def merge (a b : Outcome) : Outcome := (empty.absorb a).absorb b

/-- Is there no message (`is_valid`)? Fields that are listed without messages do not count. -/
def isValid (o : Outcome) : Bool := o.errors.toList.all fun e => e.2.isEmpty

/-- The fields with messages (`invalid_fields`), in the order in which they came up. -/
def invalidFields (o : Outcome) : List String :=
  (o.errors.toList.filter fun e => !e.2.isEmpty).map Prod.fst

/-- How many messages there are (`violation_count`), repetitions included. -/
def violationCount (o : Outcome) : Nat :=
  o.errors.toList.foldr (fun e n => e.2.length + n) 0

/-- The fields with messages, in the order in which they were first mentioned (`to_dict`). -/
def violations (o : Outcome) : OrderedMap String (List String) :=
  o.errors.filter fun e => !e.2.isEmpty

/-- Every known field in report order, then the other fields, with the messages of each
(`to_dict` with valid fields included). -/
def report (o : Outcome) : OrderedMap String (List String) :=
  o.errors.toList.foldl (fun m e => m.insert e.1 e.2)
    (.ofList (Field.all.map fun f => (f.name, [])))

/-- Do two outcomes list the same messages under the same fields, in whatever order? -/
def same (a b : Outcome) : Bool :=
  a.errors.toList.length == b.errors.toList.length
    && a.errors.toList.all fun e => b.errors.get? e.1 == some e.2

/-- One line that counts the violations and names the fields: the text of `ConfigurationInvalid`. -/
def summary (o : Outcome) : String :=
  toString o.violationCount ++ " violation(s) on: " ++ ", ".intercalate o.invalidFields

end Outcome

end SinkAudit
