import SinkAudit.Validator

/-!
# Sessions with a store in memory

A store in memory is changed by whoever sets up a test, and asked by validations in between. A session is
any sequence of both. It is the state machine on which "nothing is remembered but what was changed" can be
said: its state is the store, and the validator is a constant.

- `Step`: what may be done with a validator and its store.
- `Step.run`: what comes of a step, and the store after it.
- `runAll`: what comes of steps one after the other.
-/

namespace SinkAudit

/-- A step of a session: a change to the store, a question to it, or a validation of either kind. -/
inductive Step where
  | createBucket (name : String)
  | deleteBucket (name : String)
  | failWith (failure : Option Failure)
  | bucketExists (name : String)
  | validate (s : Snapshot) (check : Bool)
  /-- Validate under a policy of the step's own, storage failures ending the validation. -/
  | validateWith (s : Snapshot) (p : Policy)
  | checkBucket (name : String) (mode : AccessMode)

/-- What comes of a step. -/
inductive StepResult where
  | nothing
  | answer (a : Answer)
  | outcome (o : Except Failure Outcome)

namespace Step

/-- The bucket that a step asks for, if any. A validation asks for the one of its snapshot if it checks it. -/
def lookup? : Step → Option String
  | bucketExists name => some name
  | validate s true => some s.bucket.text
  | validateWith s _ => some s.bucket.text
  | checkBucket name _ => some name
  | _ => none

/-- The result of a validation with a store, and the store after it. -/
def ofValidation (store : MemoryStore)
    (run : Logged (Except Failure Outcome) × Option MemoryStore) :
    Logged StepResult × MemoryStore :=
  (⟨.outcome run.1.result, run.1.log⟩, run.2.getD store)

/-- What comes of a step, and the store after it. Nothing else is carried from one step to the next. -/
def run (v : Validator) (store : MemoryStore) : Step → Logged StepResult × MemoryStore
  | createBucket name => (⟨.nothing, []⟩, store.create name)
  | deleteBucket name => (⟨.nothing, []⟩, store.delete name)
  | failWith failure => (⟨.nothing, []⟩, store.failWith failure)
  | bucketExists name => (⟨.answer (store.ask name).1, []⟩, (store.ask name).2)
  | validate s check => ofValidation store (v.validate (some store) s check)
  | validateWith s p => ofValidation store (({ policy := p } : Validator).validate (some store) s)
  | checkBucket name mode =>
    let (judged, store) := checkBucketIn mode store name
    (⟨.outcome judged.result, judged.log⟩, store)

end Step

/-- What comes of steps one after the other, and the store after them. A step that fails does not end the
session. -/
def runAll (v : Validator) (store : MemoryStore) :
    List Step → List (Logged StepResult) × MemoryStore
  | [] => ([], store)
  | step :: rest =>
    let (result, store) := step.run v store
    let (results, store) := runAll v store rest
    (result :: results, store)

end SinkAudit
