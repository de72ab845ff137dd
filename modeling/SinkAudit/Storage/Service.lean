import SinkAudit.Document.Literal

/-!
# Errors of storage services, and storage failures

A bucket that a service reports missing is an answer. A storage failure is the lack of one: the service
could not be asked, or did not say. The errors of a service are its package's own, and become storage
failures only if an adapter maps them.

- `Refusal`: what a service says when it refuses a request, and the text that this makes
  (`ClientError`); `Refusal.isMissing`, `Refusal.isDenied`: what it says of the bucket.
- `ServiceError`: how a request can fail, for either service.
- `StorageFault`: the families of storage failures.
- `StorageError`: a failure, with the bucket that was asked for and the service's own error.
-/

namespace SinkAudit

/-- What a service says when it refuses a request (`ClientError.response`); it may leave out any part, and
any part may be a value of whatever kind. -/
structure Refusal where
  /-- The code of the error. -/
  code : Option Value
  /-- The words for the error. -/
  detail : Option Value
  /-- The status of the response. -/
  status : Option Value
  /-- How often the request was repeated, if that was as often as allowed. -/
  attempts : Option Value

namespace Refusal

/-- The code as text. -/
def codeText (r : Refusal) : String := (r.code.map Value.shown).getD ""

/-- Is the status this number? A status that is a truth value or a float counts as the number it equals. -/
def hasStatus (r : Refusal) (n : Int) : Bool := r.status.any (·.isNumber n)

/-- The text of the refusal, which the package makes when it makes the error. -/
def text (r : Refusal) : String :=
  let part (v : Option Value) : String := (v.map Value.shown).getD "Unknown"
  "An error occurred (" ++ part r.code ++ ") when calling the HeadBucket operation"
    ++ (match r.attempts with
      | none => ""
      | some n => " (reached max retries: " ++ n.shown ++ ")")
    ++ ": " ++ part r.detail

/-- The codes that say that there is no such bucket (`_S3_NOT_FOUND_CODES`). -/
def missingCodes : List String := ["404", "NoSuchBucket", "NotFound"]

/-- The codes that say that the credentials do not do (`_S3_AUTH_CODES`). -/
def deniedCodes : List String :=
  ["401", "403", "AccessDenied", "Forbidden", "InvalidAccessKeyId", "SignatureDoesNotMatch"]

/-- Does the refusal say that there is no such bucket? Code and status may contradict each other; either
is enough. -/
def isMissing (r : Refusal) : Bool := missingCodes.contains r.codeText || r.hasStatus 404

/-- Does the refusal say that the credentials do not do? The code or the status is enough. -/
def isDenied (r : Refusal) : Bool :=
  deniedCodes.contains r.codeText || r.hasStatus 401 || r.hasStatus 403

/-- The code of the refusal, or else its status: what a failure for want of credentials shows. -/
def reason (r : Refusal) : String :=
  if r.codeText = "" then (r.status.getD (.scalar .null)).shown else r.codeText

end Refusal

/-- How a request to a storage service can fail. The first three come from S3, the others from
Azure. -/
inductive ServiceError where
  | refused (r : Refusal)
  | noCredentials
  | transport (message : String)
  | response (message : String) (status : Value)
  | authentication (message : String) (status : Value)
  | request (message : String)
  | general (message : String)

/-- The text of the error. -/
def ServiceError.text : ServiceError → String
  | refused r => r.text
  | noCredentials => "Unable to locate credentials"
  | transport m | response m _ | authentication m _ | request m | general m => m

/-! ## Storage failures -/

/-- The families of storage failures (`StorageAuthError`, `StorageAccessError`). They have exit codes of their
own. -/
inductive StorageFault where
  | general
  /-- Credentials are missing or rejected. -/
  | auth
  /-- The service was not reached, or answered with an error. -/
  | access
  /-- A finer kind of authentication failure, which a store names itself. -/
  | namedAuth (name : String)
  /-- A finer kind of any other failure, which a store names itself. -/
  | named (name : String)
  deriving DecidableEq

/-- A failure to obtain an answer from a store. -/
structure StorageError where
  fault : StorageFault
  message : String
  bucket : Option String := none
  cause : Option ServiceError := none

end SinkAudit
