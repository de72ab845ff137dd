import SinkAudit.Proofs.Compatibility
import SinkAudit.Validator

/-!
# What a validation returns

A validator runs the rules, asks the store if it is to, and merges the two outcomes. All three parts are
described elsewhere; here it is said what becomes of them together, for any store.

- `Validator.result_validate`: with a store, its answer is judged and merged with what the rules say.
- `Validator.exists_messages`: an outcome holds what the rules say, and at most one message about
  the bucket.
- `Validator.of_isValid`: if it is valid, no role fails and no bucket is missing, as far as one
  was asked for.
- `Validator.eq_of_validate_eq_error`: the failures that end a validation are those of the store.
-/

namespace SinkAudit

open Outcome

/-! ## The bucket check -/

/-- A store's answer is judged to nothing if there is such a bucket, and else to one message. -/
theorem judgeAnswer_eq_ok {mode : AccessMode} {bucket : String} {answer : Answer} {o : Outcome}
    (h : (judgeAnswer mode bucket answer).result = .ok o) :
    (answer = .ok true ∧ o = .empty) ∨ ∃ message, o = bucketViolation message := by
  cases answer with
  | ok present =>
    cases present with
    | true =>
      cases h
      exact .inl ⟨rfl, rfl⟩
    | false =>
      cases h
      exact .inr ⟨_, rfl⟩
  | error f =>
    cases f with
    | storage e =>
      cases mode with
      | raise => cases h
      | report =>
        cases h
        exact .inr ⟨_, rfl⟩
    | _ => cases h

/-- A bucket check that fails does so with the store's own failure. -/
theorem eq_of_judgeAnswer_eq_error {mode : AccessMode} {bucket : String} {answer : Answer}
    {f : Failure} (h : (judgeAnswer mode bucket answer).result = .error f) : answer = .error f := by
  cases answer with
  | ok present => cases h
  | error f' =>
    cases f' with
    | storage e =>
      cases mode with
      | raise =>
        cases h
        rfl
      | report => cases h
    | _ =>
      cases h
      rfl

theorem messagesFor_bucketViolation (message : String) (f : Field) :
    (bucketViolation message).messagesFor f.name = if f = .bucket then [message] else [] := by
  rw [bucketViolation, messagesFor_add, messagesFor_empty, List.nil_append]
  by_cases hf : f = .bucket
  · rw [if_pos hf, if_pos (by rw [hf])]
  · rw [if_neg hf, if_neg fun h => hf (Field.name_inj.mp h).symm]

/-! ## Outcomes -/

namespace Validator

variable {σ : Type} [BucketStore σ] {v : Validator} {store : Option σ} {s : Snapshot} {check : Bool}
  {o : Outcome}

/-- The answer of the store is judged, and merged with the violations of the rules. -/
theorem result_validate (v : Validator) (st : σ) (s : Snapshot) :
    (v.validate (some st) s).1.result
      = (judgeAnswer v.mode s.bucket.text (BucketStore.ask st s.bucket.text).1).result.map
          (evaluate v.policy s).merge := by
  show (v.judge s (BucketStore.ask st s.bucket.text).1).result = _
  rw [judge]
  dsimp only
  cases (judgeAnswer v.mode s.bucket.text (BucketStore.ask st s.bucket.text).1).result with
  | error f => rfl
  | ok o => rfl

/-- If something is made of the answer, the validation comes to an outcome. -/
theorem validate_of_judged {st : σ} {bucket : Outcome}
    (h : (judgeAnswer v.mode s.bucket.text (BucketStore.ask st s.bucket.text).1).result
      = .ok bucket) :
    (v.validate (some st) s).1.result = .ok ((evaluate v.policy s).merge bucket) := by
  rw [result_validate, h]
  rfl

/-- An outcome comes of what was made of the answer. -/
theorem exists_judged {st : σ} {o : Outcome}
    (h : (v.validate (some st) s).1.result = .ok o) :
    ∃ bucket, o = (evaluate v.policy s).merge bucket
      ∧ (judgeAnswer v.mode s.bucket.text (BucketStore.ask st s.bucket.text).1).result
        = .ok bucket := by
  rw [result_validate] at h
  -- a failed check of the bucket is what the validation ends with, so there would be no outcome
  cases hjudged : (judgeAnswer v.mode s.bucket.text
      (BucketStore.ask st s.bucket.text).1).result with
  | error f =>
    rw [hjudged] at h
    cases h
  | ok bucket =>
    rw [hjudged] at h
    cases h
    exact ⟨bucket, rfl, rfl⟩

/-- A validation with a store fails only if the store does, and in the same way. -/
theorem ask_of_validate_eq_error {st : σ} {f : Failure}
    (h : (v.validate (some st) s).1.result = .error f) :
    (BucketStore.ask st s.bucket.text).1 = .error f := by
  rw [result_validate] at h
  cases hjudged : (judgeAnswer v.mode s.bucket.text
      (BucketStore.ask st s.bucket.text).1).result with
  | error f' =>
    rw [hjudged] at h
    cases h
    exact eq_of_judgeAnswer_eq_error hjudged
  | ok bucket =>
    rw [hjudged] at h
    cases h

/-- An outcome is that of the rules, or that and what was made of a store's answer. -/
theorem validate_eq_ok (h : (v.validate store s check).1.result = .ok o) :
    (check = false ∧ o = evaluate v.policy s)
      ∨ ∃ st bucket, store = some st
        ∧ (judgeAnswer v.mode s.bucket.text (BucketStore.ask st s.bucket.text).1).result = .ok bucket
        ∧ o = (evaluate v.policy s).merge bucket := by
  cases check with
  | false =>
    cases h
    exact .inl ⟨rfl, rfl⟩
  | true =>
    cases store with
    | none => cases h
    | some st =>
      obtain ⟨bucket, rfl, hjudged⟩ := exists_judged h
      exact .inr ⟨st, bucket, rfl, hjudged, rfl⟩

/-- An outcome holds the messages of the rules, and at most one about the bucket. It has none if
the bucket was not asked for, or if the store has it. -/
theorem exists_messages (h : (v.validate store s check).1.result = .ok o) :
    o.IsAboutFields ∧ ∃ about : List String, about.length ≤ 1
      ∧ (∀ f : Field, o.messagesFor f.name
          = (evaluate v.policy s).messagesFor f.name ++ if f = .bucket then about else [])
      ∧ (about = [] → check = false ∨ ∃ st, store = some st
          ∧ (BucketStore.ask st s.bucket.text).1 = .ok true) := by
  rcases validate_eq_ok h with ⟨hcheck, rfl⟩ | ⟨st, bucket, rfl, hjudged, rfl⟩
  · refine ⟨isAboutFields_evaluate _ _, [], by decide, fun f => ?_, fun _ => .inl hcheck⟩
    rw [ite_self, List.append_nil]
  -- of the store's answer there is nothing left, or one message about the bucket
  · rcases judgeAnswer_eq_ok hjudged with ⟨hanswer, rfl⟩ | ⟨message, rfl⟩
    · refine ⟨(isAboutFields_evaluate _ _).merge isAboutFields_empty, [], by decide, fun f => ?_,
        fun _ => .inr ⟨st, rfl, hanswer⟩⟩
      rw [messagesFor_merge, messagesFor_empty, ite_self]
    · refine ⟨(isAboutFields_evaluate _ _).merge (isAboutFields_empty.add .bucket message), [message],
        Nat.le_refl 1, fun f => ?_, fun h => ?_⟩
      · rw [messagesFor_merge, messagesFor_bucketViolation]
      · cases h

/-- Under every field but the compression there is at most one message. -/
theorem length_messagesFor_le (h : (v.validate store s check).1.result = .ok o) {f : Field}
    (hf : f ≠ .compression) : (o.messagesFor f.name).length ≤ 1 := by
  obtain ⟨-, about, hlength, hmessages, -⟩ := exists_messages h
  rw [hmessages f]
  by_cases hbucket : f = .bucket
  · rw [if_pos hbucket, hbucket, messagesFor_evaluate_bucket]
    exact hlength
  · rw [if_neg hbucket, List.append_nil]
    exact length_messagesFor_evaluate_le v.policy s hf

/-- Under the compression stand the messages of the failing roles. -/
theorem messagesFor_compression (h : (v.validate store s check).1.result = .ok o) :
    o.messagesFor Field.compression.name
      = (failingRoles v.policy s).map (roleMessage v.policy s) := by
  obtain ⟨-, about, -, hmessages, -⟩ := exists_messages h
  rw [hmessages .compression, if_neg (by decide), List.append_nil, messagesFor_evaluate_compression]

/-- A valid outcome says that no role fails, and that the bucket was not asked for or is there. -/
theorem of_isValid (h : (v.validate store s check).1.result = .ok o) (hvalid : o.isValid = true) :
    failingRoles v.policy s = [] ∧ (check = false ∨ ∃ st, store = some st
      ∧ (BucketStore.ask st s.bucket.text).1 = .ok true) := by
  obtain ⟨hfields, about, -, hmessages, habout⟩ := exists_messages h
  have hnone := hfields.isValid_iff.mp hvalid
  constructor
  · have hcompression := hnone .compression
    rw [messagesFor_compression h, List.map_eq_nil_iff] at hcompression
    exact hcompression
  · have hbucket := hnone .bucket
    rw [hmessages .bucket, if_pos rfl] at hbucket
    exact habout (List.append_eq_nil_iff.mp hbucket).2

/-- A validation that fails lacks a store, or fails with the store's own failure. -/
theorem eq_of_validate_eq_error {f : Failure}
    (h : (v.validate store s check).1.result = .error f) :
    f = .setup .noStore ∨ ∃ st, store = some st
      ∧ (BucketStore.ask st s.bucket.text).1 = .error f := by
  cases check with
  | false => cases h
  | true =>
    cases store with
    | none =>
      cases h
      exact .inl rfl
    | some st => exact .inr ⟨st, rfl, ask_of_validate_eq_error h⟩

end Validator

end SinkAudit
