import SinkAudit.BucketCheck

/-!
# Validation of snapshots

The compatibility rules and the bucket check each run in full, and their messages are merged
(`SinkConfigValidator`). Neither sees what the other found: a configuration that breaks the rules still has
its bucket checked, so that a person learns everything at once.

A validator keeps no state. The store does, and is handed in and handed back, because asking it may change
it. A validation that is told to check the bucket and has no store to ask is a mistake of the caller, and
fails before the rules are evaluated; one that is told not to check leaves the store alone.

- `Validator`: a policy and an access mode.
- `Validator.validate`: the outcome for a snapshot. A bucket check needs a store, which is asked once;
  without a bucket check no store is asked.
- `conclusion`: the last line of the log.
-/

namespace SinkAudit

/-- A policy, and what becomes of storage failures (`SinkConfigValidator`). There is nothing else to a
validator but its store, which is handed to it here with each validation. -/
structure Validator where
  policy : Policy := .default
  mode : AccessMode := .raise

/-- What is written to the log about an outcome: that it is valid, or how many violations there are. -/
def conclusion (o : Outcome) : LogEntry :=
  ⟨.debug, .validator,
    if o.isValid then "Configuration is valid"
    else "Configuration has " ++ toString o.violationCount ++ " violations on "
      ++ ", ".intercalate o.invalidFields⟩

namespace Validator

/-- The outcome of the rules alone, without a bucket check. -/
def validateRules (v : Validator) (s : Snapshot) : Logged Outcome :=
  let outcome := evaluate v.policy s
  ⟨outcome, evaluationLog v.policy s ++ [conclusion outcome]⟩

/-- The outcome of the rules and of a store's answer for the bucket. If the answer is a failure that ends the
validation, what the rules found is lost with it. -/
def judge (v : Validator) (s : Snapshot) (answer : Answer) : Logged (Except Failure Outcome) :=
  let bucket := judgeAnswer v.mode s.bucket.text answer
  match bucket.result with
  | .error f => ⟨.error f, evaluationLog v.policy s ++ bucket.log⟩
  | .ok o =>
    let outcome := (evaluate v.policy s).merge o
    ⟨.ok outcome, evaluationLog v.policy s ++ bucket.log ++ [conclusion outcome]⟩

/-- Validate a snapshot, with or without a bucket check (`validate`). -/
def validate {σ : Type} [BucketStore σ] (v : Validator) (store : Option σ) (s : Snapshot)
    (checkBucket : Bool := true) : Logged (Except Failure Outcome) × Option σ :=
  match checkBucket, store with
  | false, store =>
    let judged := v.validateRules s
    (⟨.ok judged.result, judged.log⟩, store)
  | true, none => (⟨.error (.setup .noStore), []⟩, none)
  | true, some store =>
    let (answer, store) := BucketStore.ask store s.bucket.text
    (v.judge s answer, some store)

end Validator

end SinkAudit
