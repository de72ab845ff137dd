import SinkAudit.Document.Literal
import SinkAudit.Log
import SinkAudit.Outcome
import SinkAudit.Policy
import SinkAudit.Snapshot.Basic
import SinkAudit.Text.Quoted

/-!
# Compatibility of formats with compression

Compressing an object as a whole is only safe for some formats. Without compression nothing is
checked. With it the format of every role that is persisted has to be safe, each role on its own: a
violation of one role says nothing about the others, and every role at fault is reported.

The message of a role is posted under each field that a person could change to make it go away, the
compression included. So under the compression there stands one message for each role at fault, and the
order of the roles shows there. Nothing in this module asks a store.

- `Role`: the value streams that are written, and the format that a snapshot gives each.
- `violationMessage`: what is said of a role whose format is not safe; `describeViolation`: the same for
  a codec and a role that are given by name.
- `failingRoles`: the roles of a snapshot at fault under a policy.
- `evaluate`: each failing role's message, under its own fields and then under the compression.
- `evaluationLog`: what is written to the log meanwhile.
-/

namespace SinkAudit

/-- A stream of values that is written (`Role`). Data are always written, keys and headers by choice. -/
inductive Role where
  | data
  | keys
  | headers
  deriving DecidableEq

namespace Role

/-- Every role, in the order in which they are checked (`_role_checks`). It is the order of the messages under
the compression. -/
def all : List Role := [data, keys, headers]

/-- The name of a role. -/
def name : Role → String
  | data => "data"
  | keys => "keys"
  | headers => "headers"

/-- The role of a name. -/
def ofName? (s : String) : Option Role := all.find? (·.name == s)

/-- The fields that a failing role is reported under, besides the compression: its format, and for keys and
headers before that the flag that persists them. -/
def fields : Role → List Field
  | data => [.dataFormat]
  | keys => [.storeKeys, .keysFormat]
  | headers => [.storeHeaders, .headersFormat]

end Role

namespace Snapshot

/-- Are the values of a role persisted? Data always are; for keys and headers the configuration says so. -/
def persists (s : Snapshot) : Role → Bool
  | .data => true
  | .keys => s.storeKeys
  | .headers => s.storeHeaders

/-- The format of a role. -/
def format (s : Snapshot) : Role → String
  | .data => s.dataFormat.text
  | .keys => s.keysFormat.text
  | .headers => s.headersFormat.text

/-- Is a role persisted in a format that is not safe? Nothing else is asked about a format: one that nobody
knows is not safe unless the policy names it. -/
def fails (p : Policy) (s : Snapshot) (r : Role) : Bool := s.persists r && !p.isSafe (s.format r)

end Snapshot

/-- What is said of a role whose format is not safe with a codec (`FORMAT_CONFIG_ERROR_MESSAGE`). -/
def violationMessage (p : Policy) (c : Codec) (r : Role) (format : String) : String :=
  "Compression type '" ++ c.name ++ "' is not supported for " ++ r.name ++ " format class '" ++ format
    ++ "'. Supported format classes for compressed output: " ++ p.supported ++ "."

/-- A value that names no codec, or no role. The rules cannot run into this, since a snapshot has both as
what they are; only a caller that describes a violation by names can. -/
inductive NamingError where
  | codec (v : Value)
  | role (v : Value)

/-- The text of the error. -/
def NamingError.message : NamingError → String
  | codec v => v.literal ++ " is not a valid CompressionType"
  | role v => v.literal ++ " is not a valid Role"

/-- The string that a value is, if it is one. -/
def Value.string? (v : Value) : Option String := v.text?.bind Text.toString?

/-- What is said of a role that a value names, with the codec that another names (`format_config_error`).
If neither is a name, the codec is blamed. -/
def describeViolation (p : Policy) (codec role : Value) (format : String) :
    Except NamingError String :=
  match codec.string?.bind Codec.ofName?, role.string?.bind Role.ofName? with
  | some c, some r => .ok (violationMessage p c r format)
  | none, _ => .error (.codec codec)
  | _, none => .error (.role role)

/-- The roles at fault, in the order in which they are checked. Without compression no role is. -/
def failingRoles (p : Policy) (s : Snapshot) : List Role :=
  match s.codec with
  | .none => []
  | .gzip => Role.all.filter (s.fails p)

/-- Report a failing role, as one turn of the loop in `evaluate` does: its message under its fields, then
under the compression. -/
def Outcome.addRole (p : Policy) (s : Snapshot) (o : Outcome) (r : Role) : Outcome :=
  (r.fields ++ [Field.compression]).foldl
    (fun o f => o.add f.name (violationMessage p s.codec r (s.format r))) o

/-- The violations of a snapshot under a policy (`evaluate`). -/
def evaluate (p : Policy) (s : Snapshot) : Outcome :=
  (failingRoles p s).foldl (Outcome.addRole p s) .empty

/-- What the check of a role writes to the log: that it was skipped, or that it found fault. A safe format
leaves no trace. -/
def roleLog (p : Policy) (s : Snapshot) (r : Role) : List LogEntry :=
  if !s.persists r then
    [⟨.debug, .rules, r.name ++ " not persisted; skipping " ++ r.name ++ " format check"⟩]
  else if p.isSafe (s.format r) then []
  else
    [⟨.debug, .rules, "Incompatible " ++ r.name ++ " format " ++ Text.quoteString (s.format r)
      ++ " for " ++ s.codec.name⟩]

/-- What the check of a snapshot writes to the log. It names roles and formats, which are no secrets. -/
def evaluationLog (p : Policy) (s : Snapshot) : List LogEntry :=
  match s.codec with
  | .none => [⟨.debug, .rules, "Compression disabled; skipping format compatibility checks"⟩]
  | .gzip => Role.all.flatMap (roleLog p s)

end SinkAudit
