import SinkAudit.Document.Literal
import SinkAudit.Policy
import SinkAudit.Text.Blank

/-!
# Settings

How the storage service is reached, and which formats may be compressed. Settings are checked once,
when they are made (`Settings.__post_init__`); the first fault found is reported.

What is checked is that settings can be told apart from mistakes, and not that they work: an address has the
form of one, a pair of keys is complete, one kind of credentials is chosen. Whether the service accepts them
is for the service to say. Two things are accepted that the documentation does not promise, since the checks
are written as they are: an address may end in a line feed, and a number of seconds may be none.

A draft has the backend and the timeout as values of any kind, because a program that makes settings itself
may pass whatever it likes, and the errors show what was passed.

- `Backend`, `Seconds`: the service that is asked, and how long it may take.
- `isEndpoint`: the texts that are addresses of a service.
- `SettingsDraft`: settings as they are given; `Settings.ofDraft`: the settings they make, or the fault.
-/

namespace SinkAudit

/-- The services that a bucket may live in (`STORAGE_BACKENDS`). -/
inductive Backend where
  | s3
  | azure
  deriving DecidableEq

namespace Backend

/-- Every service. -/
def all : List Backend := [s3, azure]

/-- The name of a service. -/
def name : Backend → String
  | s3 => "s3"
  | azure => "az"

/-- The service of a name, which has to be spelled exactly. -/
def ofName? (s : String) : Option Backend := all.find? (·.name == s)

@[simp] theorem ofName?_name (b : Backend) : ofName? b.name = some b := by cases b <;> rfl

end Backend

/-- A number of seconds, as it was given. An error shows it in the way it was written: `0` and `0.0` differ
there. -/
inductive Seconds where
  | truth (b : Bool)
  | whole (n : Int)
  | real (x : Float)

namespace Seconds

/-- The number of seconds that a value is, if it is a number. A truth value is one, as it is an integer. -/
def ofValue? : Value → Option Seconds
  | .scalar (.bool b) => some (truth b)
  | .scalar (.int n) => some (whole n)
  | .scalar (.float x) => some (real x)
  | _ => none

/-- The number as a value. -/
def toScalar : Seconds → Scalar
  | truth b => .bool b
  | whole n => .int n
  | real x => .float x

/-- Is the number neither zero nor below? What is no number (NaN) is neither, for no comparison with it
holds. -/
def isPositive : Seconds → Bool
  | truth b => b
  | whole n => 0 < n
  | real x => match Binary64.magnitude x with
    | .notANumber => true
    | .infinite => !Binary64.isNegative x
    | .finite m _ => m != 0 && !Binary64.isNegative x

@[simp] theorem ofValue?_toScalar (s : Seconds) : ofValue? (.scalar s.toScalar) = some s := by
  cases s <;> rfl

end Seconds

/-- May the character stand in the name of a host? Letters and digits are those of ASCII. -/
def isHostChar (c : Char) : Bool := c.isAlphanum || c == '.' || c == '-'

/-- What follows the scheme of an address. -/
def afterScheme? : List Char → Option (List Char)
  | 'h' :: 't' :: 't' :: 'p' :: ':' :: '/' :: '/' :: rest => some rest
  | 'h' :: 't' :: 't' :: 'p' :: 's' :: ':' :: '/' :: '/' :: rest => some rest
  | _ => none

/-- What follows a port, if there is one. A colon without digits is no port, and is left for the check of
the path to refuse. -/
def dropPort : List Char → List Char
  | ':' :: rest =>
    if (rest.takeWhile Char.isDigit).isEmpty then ':' :: rest else rest.dropWhile Char.isDigit
  | rest => rest

/-- Is the text nothing, or a path without line feeds? -/
def isPath : List Char → Bool
  | [] => true
  | '/' :: rest => !rest.contains '\n'
  | _ => false

/-- Is the text a scheme, a host, an optional port and an optional path? This is the regular expression of
`Settings.__post_init__`, but for the end of the text (`isEndpoint`). -/
def isAddress (cs : List Char) : Bool :=
  match afterScheme? cs with
  | none => false
  | some rest =>
    !(rest.takeWhile isHostChar).isEmpty && isPath (dropPort (rest.dropWhile isHostChar))

/-- Is the text an address, perhaps with a line feed at its end? The pattern of the check ends in `$`, which
holds before a final line feed as well as at the end. -/
def isEndpoint (s : String) : Bool := isAddress (Text.dropFinalBreak s.toList)

/-- The addresses among the settings. -/
inductive Endpoint where
  | s3
  | azure
  deriving DecidableEq

/-- The name of the setting. -/
def Endpoint.name : Endpoint → String
  | s3 => "s3_endpoint"
  | azure => "az_blob_endpoint"

/-- Is a setting given and not empty? The settings that are texts count as not given if they are empty. -/
def isGiven : Option String → Bool
  | none => false
  | some s => s != ""

/-- Settings as they are given, which may be anything: the arguments of `Settings`. The defaults are those of
the program. -/
structure SettingsDraft where
  backend : Value := .ofString "s3"
  timeout : Value := .scalar (.float 30)
  region : Option String := none
  endpoint : Option String := none
  accessKey : Option String := none
  secretKey : Option String := none
  connectionString : Option String := none
  account : Option String := none
  accountKey : Option String := none
  blobEndpoint : Option String := none
  safeFormats : List String := Policy.defaultFormats

/-- Settings in order (`Settings`). The backend is one that there is and the policy has a format; what else
was checked is not in the types, since nothing afterwards relies on it. -/
structure Settings where
  backend : Backend
  timeout : Seconds
  region : Option String
  endpoint : Option String
  accessKey : Option String
  secretKey : Option String
  connectionString : Option String
  account : Option String
  accountKey : Option String
  blobEndpoint : Option String
  safe : Policy

/-- What is wrong with settings. Each fault holds what its text shows. That no fault holds a credential is not
a claim about the program here but visible from the type. -/
inductive SettingsError where
  | backend (v : Value)
  | timeoutType (v : Value)
  | timeout (s : Seconds)
  | timeoutText (s : String)
  | endpoint (e : Endpoint) (s : String)
  | keyPair
  | twoCredentials
  | accountWithoutKey
  | keyWithoutAccount
  | noSafeFormat

/-- The text of the error. -/
def SettingsError.message : SettingsError → String
  | backend v =>
    "Unsupported storage_backend: " ++ v.shown ++ ". Expected one of "
      ++ ", ".intercalate (Backend.all.map Backend.name)
  | timeoutType v => "'<=' not supported between instances of '" ++ v.typeName ++ "' and 'int'"
  | timeout s => "storage_timeout_s must be positive, got " ++ s.toScalar.literal
  | timeoutText s => "could not convert string to float: " ++ Text.quoteString s
  | endpoint e s => "Invalid " ++ e.name ++ " format: " ++ s
  | keyPair => "s3_access_key and s3_secret_key must be specified together"
  | twoCredentials => "Specify either az_connection_string OR (az_account + az_key), not both"
  | accountWithoutKey => "az_account specified but az_key is missing"
  | keyWithoutAccount => "az_key specified but az_account is missing"
  | noSafeFormat => "safe_formats must name at least one format"

namespace Settings

/-- The service that a value names. -/
def readBackend (v : Value) : Except SettingsError Backend :=
  match (v.text?.bind Text.toString?).bind Backend.ofName? with
  | some b => .ok b
  | none => .error (.backend v)

/-- The time that a value allows. What is no number cannot be compared with zero, which is an error of
another kind. -/
def readTimeout (v : Value) : Except SettingsError Seconds :=
  match Seconds.ofValue? v with
  | none => .error (.timeoutType v)
  | some s => if s.isPositive then .ok s else .error (.timeout s)

/-- An address that is not given is fine, and any other has to be one. An empty one counts as not given. -/
def checkEndpoint (e : Endpoint) : Option String → Except SettingsError Unit
  | none => .ok ()
  | some s => if s = "" ∨ isEndpoint s then .ok () else .error (.endpoint e s)

/-- Credentials have to be complete, and there is at most one kind for each service. They are only asked
whether they are given. -/
def checkCredentials (d : SettingsDraft) : Except SettingsError Unit :=
  if isGiven d.accessKey != isGiven d.secretKey then .error .keyPair
  else if isGiven d.connectionString && (isGiven d.account && isGiven d.accountKey) then
    .error .twoCredentials
  else if isGiven d.account && !isGiven d.accountKey then .error .accountWithoutKey
  else if isGiven d.accountKey && !isGiven d.account then .error .keyWithoutAccount
  else .ok ()

/-- The policy of a set of formats. -/
def readPolicy (formats : List String) : Except SettingsError Policy :=
  match Policy.ofSet? formats with
  | some p => .ok p
  | none => .error .noSafeFormat

/-- The settings of a draft, or its first fault. The order of the steps is that of the checks, and decides
which of several faults is reported. -/
def ofDraft (d : SettingsDraft) : Except SettingsError Settings := do
  -- the first check that fails is the one reported
  let backend ← readBackend d.backend
  let timeout ← readTimeout d.timeout
  checkEndpoint .s3 d.endpoint
  checkEndpoint .azure d.blobEndpoint
  checkCredentials d
  let safe ← readPolicy d.safeFormats
  return {
    backend, timeout, safe
    region := d.region
    endpoint := d.endpoint
    accessKey := d.accessKey
    secretKey := d.secretKey
    connectionString := d.connectionString
    account := d.account
    accountKey := d.accountKey
    blobEndpoint := d.blobEndpoint }

/-- The settings of an empty draft. -/
def default : Settings where
  backend := .s3
  timeout := .real 30
  region := none
  endpoint := none
  accessKey := none
  secretKey := none
  connectionString := none
  account := none
  accountKey := none
  blobEndpoint := none
  safe := .default

instance : Inhabited Settings := ⟨default⟩

/-- Does the storage account have its name and its key? Only then can it be used without a connection
string. -/
def hasAccount (s : Settings) : Bool := isGiven s.account && isGiven s.accountKey

end Settings

end SinkAudit
