import SinkAudit.Proofs.Validator

/-!
# What the bucket adds to a verdict

A validator that has a store makes two verdicts, one by the rules and one about the bucket, and merges
them. A maintainer who reads the outcome wants to know that neither spoils the other: that a bucket which
is missing hides no violation, and that what is said about the bucket does not hang on the formats.

The rules and the bucket are judged apart. The violations of the rules come first and stay as they
are; behind them stands what was made of the store's answer, which is nothing or one message, and
depends on neither the formats nor the policy. All of it is proved for any store, with a state of its own
and answers of any kind, and for validators that report failures of the store as well as for those that
let them pass through.

Not claimed is anything about the time at which the store is asked, or about a store that another party
changes between two calls: the state of a `WatchedStore` is its own.

- `WatchedStore`: any store, with a record of the names that it was asked for.
- `IsAboutBucket`, `isAboutBucket_of_judgeAnswer`: what may be made of an answer.
- `toList_merge_of_isAboutBucket`: the entries of the rules, and then those about the bucket.
- `rules_and_bucket_independent`: neither verdict influences the other.
- `report_refines_raise`: reporting storage failures changes nothing but these.
-/

namespace SinkAudit

open Outcome

/-! ## Stores that are watched -/

/-- A store that looks buckets up in any way. It may answer with values of any kind, which count by
their truth, and fail in any way. Every name that it is asked for is recorded.

The truth of an answer is a function (`isTrue`), so finding it never fails. `BucketStore` promises a
`bool`, of which that holds; a value of a class with a truth test of its own could raise one more error,
in a place where no check expects it. Such answers are outside of what is said here. -/
structure WatchedStore (σ α : Type) where
  state : σ
  lookup : σ → String → Except Failure α × σ
  isTrue : α → Bool
  /-- The names asked for, in order. -/
  asked : List String := []

namespace WatchedStore

variable {σ α : Type}

/-- Look a bucket up, and record its name. -/
def ask (w : WatchedStore σ α) (name : String) : Answer × WatchedStore σ α :=
  let (answer, state) := w.lookup w.state name
  (answer.map w.isTrue, { w with state, asked := w.asked ++ [name] })

instance : BucketStore (WatchedStore σ α) := ⟨ask⟩

end WatchedStore

/-! ## What is made of an answer -/

/-- Are these no entries, or one with a single message about the bucket? -/
def IsAboutBucket (entries : List (String × List String)) : Prop :=
  entries = [] ∨ ∃ message, entries = [(Field.bucket.name, [message])]

/-- Of an answer there is nothing left, or one message. -/
theorem isAboutBucket_of_judgeAnswer {mode : AccessMode} {bucket : String} {answer : Answer}
    {o : Outcome} (h : (judgeAnswer mode bucket answer).result = .ok o) :
    IsAboutBucket o.errors.toList := by
  rcases judgeAnswer_eq_ok h with ⟨-, rfl⟩ | ⟨message, rfl⟩
  · exact .inl rfl
  · exact .inr ⟨message, rfl⟩

/-- The entries of the rules stay as they are, and those about the bucket follow. -/
theorem toList_merge_of_isAboutBucket (p : Policy) (s : Snapshot) {o : Outcome}
    (h : IsAboutBucket o.errors.toList) :
    ((evaluate p s).merge o).errors.toList
      = (evaluate p s).errors.toList ++ o.errors.toList := by
  -- there is at most one entry, and its field is none of the rules' concern
  have hentry : ∀ e ∈ o.errors.toList, e.1 = Field.bucket.name ∧ e.2 ≠ [] := by
    intro e he
    rcases h with hnone | ⟨message, hone⟩
    · rw [hnone] at he
      cases he
    · rw [hone, List.mem_singleton] at he
      rw [he]
      exact ⟨rfl, List.cons_ne_nil _ _⟩
  refine toList_merge (hasNoEmptyField_evaluate p s) (fun e he => (hentry e he).2) fun e he => ?_
  rw [(hentry e he).1]
  exact messagesFor_evaluate_bucket p s

namespace Validator

variable {σ α : Type} {v : Validator} {s : Snapshot}

/-! ## The rules and the bucket -/

/-- The verdicts on the formats and on the bucket do not influence each other. Without a bucket
check the violations are those of the rules, and the store is left alone. With one, a validation
fails only if the store does, and in the same way. Else its outcome lists the violations of the
rules, unchanged and in order, and behind them at most one message, about the bucket; whatever the
policy and the rest of the snapshot, the outcome for the same bucket and the same answer ends in the
same message. -/
theorem rules_and_bucket_independent (v : Validator) (s : Snapshot) :
    (∀ store : Option (WatchedStore σ α),
      (v.validate store s false).1.result = .ok (evaluate v.policy s)
        ∧ (v.validate store s false).2 = store)
    ∧ (∀ (store : WatchedStore σ α) (f : Failure), (v.validate (some store) s).1.result = .error f →
      (store.ask s.bucket.text).1 = .error f)
    ∧ ∀ (store : WatchedStore σ α) (o : Outcome), (v.validate (some store) s).1.result = .ok o →
      ∃ about, (about = [] ∨ ∃ message, about = [("bucket-name", [message])])
        ∧ o.errors.toList = (evaluate v.policy s).errors.toList ++ about
        ∧ ∀ {σ' α' : Type} (store' : WatchedStore σ' α') (v' : Validator) (s' : Snapshot),
          v'.mode = v.mode → s'.bucket = s.bucket →
          (store'.ask s.bucket.text).1 = (store.ask s.bucket.text).1 →
          ∃ o', (v'.validate (some store') s').1.result = .ok o'
            ∧ o'.errors.toList = (evaluate v'.policy s').errors.toList ++ about := by
  refine ⟨fun store => ⟨rfl, rfl⟩, fun store f => ask_of_validate_eq_error, fun store o h => ?_⟩
  -- what stands behind the violations of the rules is made of the answer and the bucket's name alone
  obtain ⟨bucket, rfl, hjudged⟩ := exists_judged h
  have habout := isAboutBucket_of_judgeAnswer hjudged
  refine ⟨bucket.errors.toList, habout, toList_merge_of_isAboutBucket v.policy s habout, ?_⟩
  intro σ' α' store' v' s' hmode hbucket hanswer
  have hsame : (BucketStore.ask store' s.bucket.text).1 = (BucketStore.ask store s.bucket.text).1 :=
    hanswer
  have hjudged' : (judgeAnswer v'.mode s'.bucket.text
      (BucketStore.ask store' s'.bucket.text).1).result = .ok bucket := by
    rw [hmode, hbucket, hsame]
    exact hjudged
  exact ⟨_, validate_of_judged hjudged', toList_merge_of_isAboutBucket v'.policy s' habout⟩

/-! ## Storage failures -/

/-- A failure that is reported never reads like a missing bucket. -/
theorem accessMessage_ne_missingBucketMessage (bucket reason : String) :
    accessMessage bucket reason ≠ missingBucketMessage := by
  have haccess : "Unable to verify bucket '".toList.head? = some 'U' := by decide
  have hmissing : missingBucketMessage.toList.head? = some 'T' := by decide
  intro h
  -- the two messages begin with different letters
  rw [← h] at hmissing
  unfold accessMessage at hmissing
  simp only [String.toList_append, List.head?_append, haccess, Option.some_or, Option.some.injEq]
    at hmissing
  exact absurd hmissing (by decide)

/-- What reporting makes of an answer, given what ending the validation makes of it. -/
theorem result_judgeAnswer_report (bucket : String) (answer : Answer) :
    (judgeAnswer .report bucket answer).result
      = match (judgeAnswer .raise bucket answer).result with
        | .ok o => .ok o
        | .error (.storage e) => .ok (bucketViolation (accessMessage bucket e.message))
        | .error f => .error f := by
  cases answer with
  | ok present => rfl
  | error f =>
    cases f with
    | storage e => rfl
    | _ => rfl

/-- Reporting storage failures refines ending the validation with them. Where the latter comes to
an outcome, the former comes to the same. Where it ends with a storage failure of whatever kind,
the former lists the violations of the rules, and behind them the failure in its own words, under
a message that is never that of a missing bucket. Every other failure ends both. Either way the
store is asked for the bucket exactly once. -/
theorem report_refines_raise (p : Policy) (s : Snapshot) (store : WatchedStore σ α) :
    let raised := ({ policy := p, mode := .raise } : Validator).validate (some store) s
    let reported := ({ policy := p, mode := .report } : Validator).validate (some store) s
    (match raised.1.result with
      | .ok o => reported.1.result = .ok o
      | .error (.storage e) => ∃ o, reported.1.result = .ok o
          ∧ o.errors.toList = (evaluate p s).errors.toList ++ [("bucket-name",
              ["Unable to verify bucket '" ++ s.bucket.text ++ "': " ++ e.message])]
          ∧ o.messagesFor "bucket-name" ≠ [missingBucketMessage]
      | .error f => reported.1.result = .error f)
    ∧ raised.2.map WatchedStore.asked = some (store.asked ++ [s.bucket.text])
    ∧ reported.2.map WatchedStore.asked = some (store.asked ++ [s.bucket.text]) := by
  intro raised reported
  refine ⟨?_, rfl, rfl⟩
  have hraised : raised.1.result = (judgeAnswer .raise s.bucket.text
      (BucketStore.ask store s.bucket.text).1).result.map (evaluate p s).merge :=
    result_validate _ store s
  have hreported : reported.1.result = (judgeAnswer .report s.bucket.text
      (BucketStore.ask store s.bucket.text).1).result.map (evaluate p s).merge :=
    result_validate _ store s
  -- both are judged from the same answer, and the two ways differ in what becomes of a storage failure
  rw [hraised, hreported, result_judgeAnswer_report]
  cases (judgeAnswer .raise s.bucket.text (BucketStore.ask store s.bucket.text).1).result with
  | ok bucket => rfl
  | error f =>
    cases f with
    | storage e =>
      have habout : IsAboutBucket
          (bucketViolation (accessMessage s.bucket.text e.message)).errors.toList := .inr ⟨_, rfl⟩
      refine ⟨_, rfl, toList_merge_of_isAboutBucket p s habout, ?_⟩
      show ((evaluate p s).merge (bucketViolation _)).messagesFor Field.bucket.name ≠ _
      rw [messagesFor_merge, messagesFor_evaluate_bucket, messagesFor_bucketViolation, if_pos rfl,
        List.nil_append, ne_eq, List.cons.injEq, not_and]
      exact fun h => absurd h (accessMessage_ne_missingBucketMessage _ _)
    | _ => rfl

end Validator

end SinkAudit
