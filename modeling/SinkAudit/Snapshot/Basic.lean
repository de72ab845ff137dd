import SinkAudit.Document.Basic
import SinkAudit.Field
import SinkAudit.Identifier

/-!
# Configuration snapshots

A snapshot is what a validation judges: the seven fields of a configuration, read into their types
(`ConfigurationSnapshot`). It cannot be changed, and there is no snapshot that would have been rejected: the
types of its fields carry what reading them checks. So results about snapshots are about accepted ones, with
no condition to say so.

A snapshot is written under stable names, all seven of them, whatever the configuration said that it was
read from.

- `Snapshot`: the fields.
- `Snapshot.text`: the text of one field.
- `Snapshot.toEntries`, `Snapshot.toProperties`: the snapshot as a configuration under stable names.
-/

namespace SinkAudit

/-- The fields of a sink configuration. -/
structure Snapshot where
  dataFormat : Identifier
  storeKeys : Bool
  keysFormat : Identifier
  storeHeaders : Bool
  headersFormat : Identifier
  codec : Codec
  bucket : Identifier
  deriving DecidableEq

/-- The text of a flag, as a configuration spells it and `to_properties` writes it. -/
def flagText (b : Bool) : String := if b then "true" else "false"

namespace Snapshot

/-- The text of a field, as a configuration may give it. The texts of all fields determine the snapshot. -/
def text (s : Snapshot) : Field → String
  | .dataFormat => s.dataFormat.text
  | .storeKeys => flagText s.storeKeys
  | .keysFormat => s.keysFormat.text
  | .storeHeaders => flagText s.storeHeaders
  | .headersFormat => s.headersFormat.text
  | .compression => s.codec.name
  | .bucket => s.bucket.text

/-- The stable names of all fields with their texts, in report order (`to_properties`). -/
def toEntries (s : Snapshot) : List (String × String) := Field.all.map fun f => (f.name, s.text f)

/-- The snapshot as a configuration (`to_properties`). -/
def toProperties (s : Snapshot) : Properties :=
  .ofList (s.toEntries.map fun e => ((e.1 : Scalar), Value.ofString e.2))

end Snapshot

end SinkAudit
