import SinkAudit.Number.Reading
import SinkAudit.Settings.Basic
import SinkAudit.Text.Lowercase

/-!
# Settings from the environment

The command line has no options for the storage service; all of that comes from variables
(`create_settings_from_env`). A variable that is set to nothing counts as one that is not set, except those
of the service and of the safe formats: to set these is to choose, and to choose nothing is an error.

The names of the service and of the formats are tidied up on the way, addresses and credentials are taken as
they are. What comes out is a draft, and is checked like one that a program makes.

- `Environment`: the value of every variable that is set.
- `Variable`: the variables that settings are read from.
- `Settings.ofEnvironment`: the settings they make. A timeout that is no number is found first.
-/

namespace SinkAudit

/-- The values of the variables that are set. A variable may be set to the empty text, which most settings
take for not being given. -/
abbrev Environment := String → Option String

/-- The variables that settings are read from (`create_settings_from_env`). -/
inductive Variable where
  | backend
  | timeout
  | safeFormats
  | region
  | endpoint
  | accessKey
  | secretKey
  | connectionString
  | account
  | accountKey
  | blobEndpoint
  deriving DecidableEq

/-- All variables that settings are read from, those of credentials among them. -/
def Variable.all : List Variable :=
  [backend, timeout, safeFormats, region, endpoint, accessKey, secretKey, connectionString, account,
    accountKey, blobEndpoint]

/-- The name of a variable. -/
def Variable.name : Variable → String
  | backend => "SINKCHECK_STORAGE_BACKEND"
  | timeout => "SINKCHECK_STORAGE_TIMEOUT"
  | safeFormats => "SINKCHECK_SAFE_FORMATS"
  | region => "AWS_REGION"
  | endpoint => "SINKCHECK_S3_ENDPOINT"
  | accessKey => "AWS_ACCESS_KEY_ID"
  | secretKey => "AWS_SECRET_ACCESS_KEY"
  | connectionString => "AZURE_STORAGE_CONNECTION_STRING"
  | account => "AZURE_STORAGE_ACCOUNT"
  | accountKey => "AZURE_STORAGE_KEY"
  | blobEndpoint => "SINKCHECK_AZURE_BLOB_ENDPOINT"

/-- The value of a variable. -/
def Environment.get (env : Environment) (v : Variable) : Option String := env v.name

/-- Names in one line, parted by commas. Blanks around names, and blank names, are dropped after that
(`formatsOf`). -/
def splitNames (s : String) : List String := (s.toList.splitOn ',').map String.ofList

namespace Settings

/-- The name of the service in use: without blanks around it, in small letters. -/
def backendText (env : Environment) : String :=
  Text.lowerString (Text.stripString ((env.get .backend).getD "s3"))

/-- The timeout in the environment, or the usual one if none is given (`get_float`). -/
def timeoutOf (env : Environment) : Except SettingsError Float :=
  match env.get .timeout with
  | none => .ok 30
  | some s =>
    if s = "" then .ok 30
    else match Number.readFloat? s.toList with
      | some x => .ok x
      | none => .error (.timeoutText s)

/-- The safe formats in the environment, or the usual ones if the variable is not set. A variable that is set
to blanks gives no formats at all, which is refused. -/
def formatsOf (env : Environment) : List String :=
  match env.get .safeFormats with
  | none => Policy.defaultFormats
  | some s => Policy.cleanNames (splitNames s)

/-- The draft of settings in the environment. -/
def draftOf (env : Environment) (timeout : Float) : SettingsDraft where
  backend := .ofString (backendText env)
  timeout := .scalar (.float timeout)
  region := env.get .region
  endpoint := env.get .endpoint
  accessKey := env.get .accessKey
  secretKey := env.get .secretKey
  connectionString := env.get .connectionString
  account := env.get .account
  accountKey := env.get .accountKey
  blobEndpoint := env.get .blobEndpoint
  safeFormats := formatsOf env

/-- The settings in the environment. The timeout is read before anything is checked, so that its text is the
first fault to be found. -/
def ofEnvironment (env : Environment) : Except SettingsError Settings :=
  match timeoutOf env with
  | .error e => .error e
  | .ok timeout => ofDraft (draftOf env timeout)

end Settings

end SinkAudit
