import SinkAudit.Compatibility
import SinkAudit.ConfigurationFile
import SinkAudit.Settings.Basic
import SinkAudit.Storage.Service
import SinkAudit.Terminal.Markup

/-!
# Failures

Whatever ends a command before its answer, and a configuration that turned out to be invalid. That these
are one type is how the program works: violations are raised like any error (`ConfigurationInvalid`), and
the exit code of a run is that of the failure which ended it, or zero.

The exit code depends on the kind of a failure alone, that is on its class. A few kinds have a code of their
own and all others share one, so that it matters which kind an error is of even where its text is the same.
The kinds are as fine as the errors that the program can meet; `named` stands for classes of a store that
somebody else wrote.

- `FailureKind`: the kinds of failures; `FailureKind.exitCode`: the exit code that each ends with.
- `Failure`: the causes, each with its kind and its text.
-/

namespace SinkAudit

/-- The kinds of failures: the classes of the exceptions that end a run, as far as anything tells them apart.
A class and those derived from it are of one kind here, if nothing looks for the derived ones. -/
inductive FailureKind where
  /-- The configuration has violations. -/
  | violations
  /-- A configuration is no snapshot. -/
  | rejected
  | invalidValue
  | notFound
  | storageAccess
  | storageAuth
  | storage
  | isDirectory
  | missingPackage
  | missingKey
  | missingIndex
  | missingMember
  | wrongType
  | overflow
  | tooDeep
  | system
  | runtime
  | markup
  /-- A storage service's own error. -/
  | service
  /-- A kind that another part names. -/
  | named (name : String)
  deriving DecidableEq

namespace FailureKind

/-- The kinds with an exit code of their own (`EXIT_CODES`). -/
def exitCodes : List (FailureKind × Nat) :=
  [(violations, 1), (rejected, 2), (invalidValue, 2), (notFound, 2), (storageAccess, 3),
    (storageAuth, 4)]

/-- The exit code of a kind: three, unless it has its own (`exit_code_for`). -/
def exitCode (k : FailureKind) : Nat := (exitCodes.lookup k).getD 3

end FailureKind

/-- The kind of a storage failure. -/
def StorageFault.kind : StorageFault → FailureKind
  | general => .storage
  | auth => .storageAuth
  | access => .storageAccess
  | namedAuth name | named name => .named name

/-- What keeps a check from being set up, before any bucket is asked for. -/
inductive SetupError where
  /-- There is no policy without formats. -/
  | emptyPolicy
  /-- No such way of treating storage failures. -/
  | accessMode (v : Value)
  | noStore
  /-- No such storage service. -/
  | backend (v : Value)
  | noAzureCredentials

/-- The text of the error. -/
def SetupError.message : SetupError → String
  | emptyPolicy => Policy.emptyMessage
  | accessMode v => "on_access_error must be 'raise' or 'report', got " ++ v.literal
  | noStore => "Bucket check requested but no bucket store configured"
  | backend v => "Unsupported storage backend: " ++ v.shown
  | noAzureCredentials =>
    "Azure authentication not configured: need AZURE_STORAGE_CONNECTION_STRING or "
      ++ "(AZURE_STORAGE_ACCOUNT + AZURE_STORAGE_KEY)"

/-- The text of the error about a package that is not installed. -/
def Backend.packageMessage : Backend → String
  | s3 => "boto3 package required for S3 bucket checks"
  | azure => "azure-storage-blob package required for Azure bucket checks"

/-- Why there is no answer, or no valid configuration: what is raised, with what its text is made of. -/
inductive Failure where
  | violations (o : Outcome)
  | load (e : LoadError)
  | snapshot (e : SnapshotError)
  | naming (e : NamingError)
  | settings (e : SettingsError)
  | setup (e : SetupError)
  | storage (e : StorageError)
  /-- The package that a service needs is not there. -/
  | missingPackage (b : Backend)
  /-- An error of one service's package that the adapter of the other does not know. -/
  | service (e : ServiceError)
  | markup (e : Markup.Error)
  /-- An error of another part. -/
  | foreign (kind : FailureKind) (message : String)

/-- The kind of an error in a YAML document. Most are errors of the document; the others are what the
constructors of values run into on their own, and nobody maps them. -/
def Yaml.Error.kind : Yaml.Error → FailureKind
  | codePoint n => if n < Nat.pow 2 31 then .invalidValue else .overflow
  | notFlag _ => .missingKey
  | noDigits => .missingIndex
  | notTime => .missingMember
  | notTimeText => .wrongType
  | floatRange => .overflow
  | tooDeep => .tooDeep
  | _ => .invalidValue

/-- The kind of an error in a configuration file. -/
def LoadError.kind : LoadError → FailureKind
  | notFound _ => .notFound
  | isDirectory _ => .isDirectory
  | tooDeep _ => .tooDeep
  | yaml _ e => e.kind
  | _ => .invalidValue

namespace Failure

/-- The kind of a failure. -/
def kind : Failure → FailureKind
  | violations _ => .violations
  | load e => e.kind
  | snapshot (.conflict _) | snapshot .longValue => .invalidValue
  | snapshot (.rejected _) => .rejected
  | naming _ => .invalidValue
  | settings (.timeoutType _) => .wrongType
  | settings _ => .invalidValue
  | setup _ => .invalidValue
  | storage e => e.fault.kind
  | missingPackage _ => .missingPackage
  | service _ => .service
  | markup (.color _ _) => .invalidValue
  | markup _ => .markup
  | foreign kind _ => kind

/-- The exit code of a failure. -/
def exitCode (f : Failure) : Nat := f.kind.exitCode

/-- The text of a failure, which is what its line shows after the word for an error. What a missing key is
said to be is its literal. -/
def message : Failure → Text
  | violations o => o.summary
  | load e => e.message
  | snapshot (.conflict c) => c.message
  | snapshot .longValue => Scalar.tooLongMessage
  | snapshot (.rejected r) => r.text
  | naming e => e.message
  | settings e => e.message
  | setup e => e.message
  | storage e => e.message
  | missingPackage b => b.packageMessage
  | service e => e.text
  | markup e => e.message
  | foreign .missingKey m => Text.quoteString m
  | foreign _ m => m

/-- The failure of a file that holds no snapshot. A rejection is a failure of its own kind, for the validation
library raises an error of its own class. -/
def ofFile : FileError → Failure
  | .load e => load e
  | .snapshot e => snapshot e

end Failure

end SinkAudit
