import SinkAudit.Document.Literal
import SinkAudit.Snapshot.Coercion

/-!
# From properties to snapshots

A configuration may name a field in either vocabulary, or in both if the two agree (`from_properties`).
Whether they agree is decided before either is read: two values are compared as texts, so that a
contradiction is found even between values of which neither is any good, and `true` and `1` contradict each
other although both are read as the same flag.

Mentions are looked at in the order of the configuration, and each is compared with the latest one of its
field. The latest is also the one that is read. That is why the order of the entries can matter: values that
compare alike need not be read alike.

- `Mention`: an entry of a configuration that names a field. Under the native name of a format, a
  class name of the connector stands for the identifier of its format.
- `Mention.normalForm`: the text by which two mentions of a field are compared.
- `Conflict`: two mentions that disagree.
- `settle`, `settleAll`: the mentions of a configuration, later ones first, unless two disagree.
- `Snapshot.ofProperties`: the snapshot of a configuration. Entries that name no field are ignored.
- `Snapshot.ofAttributes`: the snapshot of values under attribute names or stable names.
-/

namespace SinkAudit

/-- An entry of a configuration that names a field. Its value is as translated: a class of the connector
stands as the identifier of its format. -/
structure Mention where
  field : Field
  spelling : Spelling
  value : Value

/-- A text that names a class of the connector stands for the identifier of its format; every other
value stands for itself, and is not even stripped. -/
def translateClass (v : Value) : Value :=
  match v.text? with
  | none => v
  | some t => match formatClasses.find? fun c => Text.strip t == Text.ofString c.1 with
    | some c => .ofString c.2
    | none => v

namespace Mention

/-- The mention that an entry is, if its key names a field. -/
def ofEntry? (e : Scalar × Value) : Option Mention :=
  match e.1 with
  | .text t => (t.toString?.bind Field.ofKey?).map fun (f, s) =>
    ⟨f, s, if s = .native ∧ f.isFormat then translateClass e.2 else e.2⟩
  | _ => none

/-- The key of a mention. -/
def key (m : Mention) : String := m.field.spelled m.spelling

/-- The text by which mentions of a field are compared (`_comparable`). A value that is no text is compared
by what it is written as, type and all. -/
def normalForm (m : Mention) : Text :=
  let t := Text.strip m.value.plainText
  if m.field.ignoresCase then Text.lower t else t

end Mention

/-- Two mentions of a field that disagree, in the order in which they were found. The values are those
after class names have been translated. -/
structure Conflict where
  earlier : Mention
  later : Mention

/-- The text of the conflict. -/
def Conflict.message (c : Conflict) : String :=
  let side (m : Mention) : String := m.key ++ "=" ++ m.value.literal
  "Conflicting values for " ++ c.later.field.name ++ ": " ++ side c.earlier ++ ", " ++ side c.later

/-- Why a configuration is no snapshot: two values of a field disagree, a value cannot be compared, or fields
are rejected. -/
inductive SnapshotError where
  | conflict (c : Conflict)
  /-- An integer that is to be compared is too long to be written. -/
  | longValue
  | rejected (r : Rejection)

/-- Add a mention to those seen before, unless it disagrees with the latest one of the same field. What
cannot be written cannot be compared, not even with itself. -/
def settle (seen : List Mention) (m : Mention) : Except SnapshotError (List Mention) :=
  match seen.find? (·.field = m.field) with
  | some earlier =>
    if earlier.value.isTooLong || m.value.isTooLong then .error .longValue
    else if earlier.normalForm = m.normalForm then .ok (m :: seen)
    else .error (.conflict ⟨earlier, m⟩)
  | none => .ok (m :: seen)

/-- Add mentions one by one. -/
def settleAll (seen : List Mention) : List Mention → Except SnapshotError (List Mention)
  | [] => .ok seen
  | m :: rest => match settle seen m with
    | .ok seen => settleAll seen rest
    | .error e => .error e

/-- The value of a field in mentions of which the latest comes first. The latest is read, though any of them
was found equal to it. -/
def givenIn (mentions : List Mention) (f : Field) : Option Given :=
  (mentions.find? (·.field = f)).map fun m => ⟨f.name, m.value⟩

/-- The mentions in a configuration, in order. The order decides which of them is the last of its field. -/
def Properties.mentions (p : Properties) : List Mention := p.toList.filterMap Mention.ofEntry?

namespace Snapshot

/-- The snapshot of a configuration (`from_properties`), or why it has none. A conflict comes before any
problem of a field. -/
def ofProperties (p : Properties) : Except SnapshotError Snapshot :=
  match settleAll [] p.mentions with
  | .error e => .error e
  | .ok mentions => match ofGiven (givenIn mentions) with
    | .ok s => .ok s
    | .error r => .error (.rejected r)

/-- The value given for a field under its stable name or else its attribute name. -/
def attributeGiven (p : Properties) (f : Field) : Option Given :=
  (p.get? (f.name : Scalar)).map (⟨f.name, ·⟩)
    <|> (p.get? (f.attributeName : Scalar)).map (⟨f.attributeName, ·⟩)

/-- The snapshot of values under attribute names or stable names: what a program makes directly. There is
nothing to resolve then, and the stable name goes first. -/
def ofAttributes (p : Properties) : Except SnapshotError Snapshot :=
  match ofGiven (attributeGiven p) with
  | .ok s => .ok s
  | .error r => .error (.rejected r)

/-- The rejection of every attempt to change an attribute of a snapshot. -/
def assignError (attributeName : String) : Rejection :=
  ⟨[⟨(Field.all.find? (·.attributeName == attributeName)).getD .dataFormat, attributeName, .frozen⟩]⟩

end Snapshot

end SinkAudit
