import SinkAudit.Log
import SinkAudit.Storage.Basic
import SinkAudit.Storage.Client

/-!
# Asking a storage service

An adapter answers for the buckets of one service (`S3BucketAdapter`, `AzureBucketAdapter`). It makes its
client when it is first asked, keeps it, and calls it for one request each time.

What the service's package does is not the adapter's to decide, and is given: which of its modules can be
imported, whether it makes a client, and what becomes of a request. Both adapters make the client outside
the `try` that maps the package's errors, so that an error in making it reaches the caller as it is. No
client is kept then, and the next question makes another attempt.

- `Adapter.ofSettings`, `Adapter.withClient`: an adapter that will make its client, and one that is
  given it.
- `ClientFault`: why the package makes no client.
- `Reply`: what becomes of a request; `Backend.answer`: what that says of a bucket.
- `Adapter.ask`: the answer, the calls made for it and the adapter after it.
- `Connection`: an adapter together with what it talks to, as a store.
-/

namespace SinkAudit

/-- What adapters import: `boto3`, `botocore.config` and `botocore.exceptions` for S3, and
`azure.storage.blob` and `azure.core.exceptions` for Azure. -/
inductive Package where
  | s3Client
  | s3Settings
  | s3Errors
  | azureClient
  | azureErrors
  deriving DecidableEq

/-- Why the package of a service makes no client. Both adapters make their client outside of the block whose
errors they classify, so that such an error reaches the caller as it is. -/
inductive ClientFault where
  /-- The settings are accepted, but the package can make nothing of them, as of a connection string
  without its parts. -/
  | invalid (message : String)
  /-- An error of the package's own, as about incomplete credentials or a profile that is not there. -/
  | package (e : ServiceError)

/-- How the fault reaches whoever asked: nothing maps it. -/
def ClientFault.failure : ClientFault → Failure
  | invalid message => .foreign .invalidValue message
  | package e => .service e

/-- What becomes of a request: of `head_bucket` for S3, and of `exists` for Azure. -/
inductive Reply where
  /-- It is answered; S3 only answers for buckets that exist. -/
  | answered (v : Value)
  | failed (e : ServiceError)
  /-- Something outside the service's package fails. -/
  | broken (f : Failure)

/-- The part of a service's package that is installed, and what becomes of every request. -/
structure ServiceAccess where
  installed : Package → Bool
  reply : Reply

/-- The answer of S3 for a bucket: what `S3BucketAdapter.bucket_exists` makes of the reply to its request. -/
def answerOfS3 (name : String) : Reply → Answer
  | .answered _ => .ok true
  | .broken f => .error f
  | .failed e =>
    let fail (fault : StorageFault) (message : String) : Answer :=
      .error (.storage ⟨fault, message, some name, some e⟩)
    match e with
    | .refused r =>
      if r.isMissing then .ok false
      else if r.isDenied then
        fail .auth ("Access denied checking S3 bucket " ++ name ++ ": " ++ r.reason)
      else fail .access ("S3 head_bucket error for " ++ name ++ ": " ++ r.text)
    | .noCredentials => fail .auth ("No S3 credentials available to check bucket " ++ name)
    | .transport m => fail .access ("S3 request failed for " ++ name ++ ": " ++ m)
    | e => .error (.service e)

/-- The answer of Azure for a container: what `AzureBucketAdapter.bucket_exists` makes of the reply to its
request. -/
def answerOfAzure (name : String) : Reply → Answer
  | .answered v => .ok v.isTruthy
  | .broken f => .error f
  | .failed e =>
    let fail (fault : StorageFault) (message : String) : Answer :=
      .error (.storage ⟨fault, message, some name, some e⟩)
    match e with
    | .authentication m _ =>
      fail .auth ("Azure authentication failed checking container " ++ name ++ ": " ++ m)
    | .response m status =>
      if status.isNumber 401 || status.isNumber 403 then
        fail .auth ("Access denied checking container " ++ name ++ ": " ++ status.shown)
      else fail .access ("Azure container check error for " ++ name ++ ": " ++ m)
    | .request m | .general m =>
      fail .access ("Azure request failed for " ++ name ++ ": " ++ m)
    | e => .error (.service e)

namespace Backend

/-- What a reply says of a bucket. -/
def answer : Backend → String → Reply → Answer
  | s3 => answerOfS3
  | azure => answerOfAzure

/-- The packages that every check uses. They are imported in the call, to have their exceptions at hand. -/
def checkPackages : Backend → List Package
  | s3 => [.s3Errors]
  | azure => [.azureErrors]

/-- The packages that make a client. They are imported when the client is made. -/
def clientPackages : Backend → List Package
  | s3 => [.s3Client, .s3Settings]
  | azure => [.azureClient]

/-- The call that makes the client, with all that it is made with. -/
def openCall (s : Settings) : Backend → ServiceCall
  | s3 => .openS3 (.ofSettings s)
  | azure => .openAzure (.ofSettings s)

/-- The calls of one request. -/
def requestCalls (name : String) : Backend → List ServiceCall
  | s3 => [.headBucket name]
  | azure => [.selectContainer name, .containerExists]

end Backend

/-- What answers for the buckets of a service (`S3BucketAdapter`, `AzureBucketAdapter`). It keeps its client
once there is one, and nothing else. -/
structure Adapter where
  backend : Backend
  settings : Settings
  /-- Is there a client already? -/
  hasClient : Bool

namespace Adapter

/-- The adapter of settings, for the service that they name. Azure needs credentials. -/
def ofSettings (s : Settings) : Except SetupError Adapter :=
  if s.backend = .azure ∧ !isGiven s.connectionString ∧ !s.hasAccount then
    .error .noAzureCredentials
  else .ok ⟨s.backend, s, false⟩

/-- The adapter of a service with a client of its own, which is injected. No client is made then. -/
def withClient (b : Backend) (s : Settings) : Adapter := ⟨b, s, true⟩

/-- What setting up an adapter writes to the log. -/
def setupLog (a : Adapter) : List LogEntry :=
  let note (m : String) : LogEntry := ⟨.debug, .storage, m⟩
  let s := a.settings
  match a.backend with
  | .s3 =>
    (if isGiven s.endpoint then [note ("S3 adapter using custom endpoint: " ++ s.endpoint.getD "")]
      else [])
      ++ [note (if isGiven s.accessKey then "S3 adapter using static access key credentials"
        else "S3 adapter using default credential chain")]
  | .azure =>
    (if isGiven s.connectionString then [note "Azure adapter using connection string auth"]
      else if isGiven s.account then
        [note ("Azure adapter using account+key auth for " ++ s.account.getD "")]
      else [])
      ++ (if isGiven s.blobEndpoint then
          [note ("Azure adapter custom endpoint: " ++ s.blobEndpoint.getD "")]
        else [])

/-- The packages that the next question needs: those of every check, and those that make a client
unless there is one. -/
def needed (a : Adapter) : List Package :=
  a.backend.checkPackages ++ if a.hasClient then [] else a.backend.clientPackages

/-- The answer for a bucket (`bucket_exists`) when the service replies as given, the calls made, and the
adapter after them. Nothing is called unless all packages that are needed are there. If there is no client
yet, and the package refuses to make one, nothing is requested, and there is none afterwards. -/
def ask (a : Adapter) (installed : Package → Bool) (reply : Reply) (name : String)
    (refusal : Option ClientFault := none) : Answer × List ServiceCall × Adapter :=
  if a.needed.all installed then
    match a.hasClient, refusal with
    | true, _ => (a.backend.answer name reply, a.backend.requestCalls name, a)
    | false, some fault => (.error fault.failure, [a.backend.openCall a.settings], a)
    | false, none =>
      (a.backend.answer name reply,
        a.backend.openCall a.settings :: a.backend.requestCalls name,
        { a with hasClient := true })
  else (.error (.missingPackage a.backend), [], a)

/-- The answers to one request after the other, with all calls made. The package refuses to make a client
at the first questions, once for each refusal that is given. -/
def askAll (installed : Package → Bool) (a : Adapter) (requests : List (String × Reply))
    (refusals : List ClientFault := []) : List Answer × List ServiceCall :=
  match requests with
  | [] => ([], [])
  | r :: rest =>
    let (answer, calls, a) := a.ask installed r.2 r.1 refusals.head?
    let (answers, more) := askAll installed a rest refusals.tail
    (answer :: answers, calls ++ more)

end Adapter

/-- An adapter with the service it talks to, the refusals of the package to make a client that are still to
come, and the calls made so far. -/
structure Connection where
  adapter : Adapter
  service : ServiceAccess
  refusals : List ClientFault := []
  calls : List ServiceCall := []

namespace Connection

/-- Ask the service for a bucket. -/
def ask (c : Connection) (name : String) : Answer × Connection :=
  let (answer, calls, adapter) :=
    c.adapter.ask c.service.installed c.service.reply name c.refusals.head?
  (answer, { c with adapter, refusals := c.refusals.tail, calls := c.calls ++ calls })

instance : BucketStore Connection := ⟨ask⟩

end Connection

/-- The stores that an audit may use: the one in memory, and that of a service. -/
inductive Store where
  | memory (m : MemoryStore)
  | service (c : Connection)

namespace Store

/-- Ask the store for a bucket. -/
def ask : Store → String → Answer × Store
  | memory m, name => let (answer, m) := m.ask name; (answer, memory m)
  | service c, name => let (answer, c) := c.ask name; (answer, service c)

/-- The calls made to a storage service. -/
def serviceCalls : Store → List ServiceCall
  | memory _ => []
  | service c => c.calls

instance : BucketStore Store := ⟨ask⟩

end Store

end SinkAudit
