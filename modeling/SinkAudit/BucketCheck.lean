import SinkAudit.Log
import SinkAudit.Storage.Basic
import SinkAudit.Text.Quoted

/-!
# The bucket check

A missing bucket is a violation. That a store cannot tell is none: it ends the validation, unless it is
to be reported, and then under a message of its own. Reading a bucket that nobody may look at as one that
is missing, or the other way round, would go unnoticed; so the two never share a message.

Only storage failures can be reported. Whatever else a store fails with is a defect of the store or of its
package, and ends the validation in either mode.

- `AccessMode`: what becomes of storage failures.
- `bucketOutcome`: the outcome for a bucket that does or does not exist.
- `judgeAnswer`: the outcome for a store's answer, and what is written to the log.
- `checkBucketIn`: the check of one bucket in a store, which is asked once.
-/

namespace SinkAudit

/-- What becomes of a storage failure (`on_access_error`). -/
inductive AccessMode where
  /-- It ends the validation. -/
  | raise
  /-- It is a violation. -/
  | report
  deriving DecidableEq

/-- The mode of a name. -/
def AccessMode.ofName? (s : String) : Option AccessMode :=
  if s = "raise" then some raise else if s = "report" then some report else none

/-- A result, and what was written to the log on the way to it. The log is part of what a command prints, and
its order among the rest matters there. -/
structure Logged (α : Type) where
  result : α
  log : List LogEntry

/-- What is said of a missing bucket (`BUCKET_NOT_EXISTS_ERROR_MESSAGE`). -/
def missingBucketMessage : String :=
  "The bucket does not exist or you do not have access to it."

/-- What is said of a bucket that a store could not be asked for (`BUCKET_ACCESS_ERROR_MESSAGE`). -/
def accessMessage (bucket reason : String) : String :=
  "Unable to verify bucket '" ++ bucket ++ "': " ++ reason

/-- The outcome with one message about the bucket, in the field that every message about it is in. -/
def bucketViolation (message : String) : Outcome := Outcome.empty.add Field.bucket.name message

/-- The outcome for a bucket that does or does not exist (`check_bucket`). -/
def bucketOutcome (present : Bool) (bucket : String) : Logged Outcome :=
  if present then ⟨.empty, []⟩
  else ⟨bucketViolation missingBucketMessage,
    [⟨.info, .bucket, "Bucket " ++ Text.quoteString bucket ++ " does not exist"⟩]⟩

/-- The outcome for a store's answer, or the failure that ends the validation. The answer itself is logged
in every case but that of a failure. -/
def judgeAnswer (mode : AccessMode) (bucket : String) : Answer → Logged (Except Failure Outcome)
  | .ok present =>
    let judged := bucketOutcome present bucket
    ⟨.ok judged.result,
      ⟨.debug, .bucket, "Bucket " ++ Text.quoteString bucket ++ " exists: "
        ++ if present then "True" else "False"⟩ :: judged.log⟩
  | .error (.storage e) =>
    match mode with
    | .raise => ⟨.error (.storage e), []⟩
    | .report => ⟨.ok (bucketViolation (accessMessage bucket e.message)),
      [⟨.warning, .bucket, "Bucket check for " ++ Text.quoteString bucket
        ++ " failed; reporting as violation: " ++ e.message⟩]⟩
  | .error f => ⟨.error f, []⟩

/-- Check a bucket in a store, which is asked once (`check_bucket_in`). -/
def checkBucketIn {σ : Type} [BucketStore σ] (mode : AccessMode) (store : σ) (bucket : String) :
    Logged (Except Failure Outcome) × σ :=
  let (answer, store) := BucketStore.ask store bucket
  (judgeAnswer mode bucket answer, store)

end SinkAudit
